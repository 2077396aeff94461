import FlipSat.CommandLine.Arguments
import FlipSat.Proofs.Except
import FlipSat.Proofs.Return

/-
  FlipSat: the integers of a command line.
  A numeral with too many digits is refused when it is read, so every integer that comes from a
  command line can be written in a message or a log (`Text.isWritable_of_readInt?`). The arguments
  are taken one by one, and each step keeps what was given so far and adds at most one value
  (`Parsed.Writable`, by induction over the arguments). `isWritable_of_arguments` says what this
  means for a request.
-/
namespace FlipSat

namespace Text

variable {s : List Char} {c : Char} {d : Nat} {ds : List Nat}

theorem digitValue?_lt (h : digitValue? c = some d) : d < 10 := by
  unfold digitValue? at h
  split at h
  · split at h
    · next hc =>
      have hle : c.toNat ≤ 57 := hc.2
      obtain rfl := Option.some.inj h
      omega
    · cases h
  · obtain ⟨z, hz, rfl⟩ := Option.map_eq_some_iff.mp h
    have hbounds := List.find?_some hz
    simp only [Bool.and_eq_true, decide_eq_true_eq] at hbounds
    omega

theorem digitRun?_lt (h : digitRun? s = some ds) : ∀ d ∈ ds, d < 10 := by
  fun_induction digitRun? s generalizing ds with
  | case1 => cases h
  | case2 c =>
    obtain ⟨d, hd, rfl⟩ := Option.map_eq_some_iff.mp h
    simpa using digitValue?_lt hd
  | case3 c s ih =>
    obtain ⟨d, hd, h⟩ := Option.bind_eq_some_iff.mp h
    obtain ⟨ds, hds, h⟩ := Option.bind_eq_some_iff.mp h
    cases h
    exact List.forall_mem_cons.mpr ⟨digitValue?_lt hd, ih hds⟩
  | case4 c s _ _ ih =>
    obtain ⟨d, hd, h⟩ := Option.bind_eq_some_iff.mp h
    obtain ⟨ds, hds, h⟩ := Option.bind_eq_some_iff.mp h
    cases h
    exact List.forall_mem_cons.mpr ⟨digitValue?_lt hd, ih hds⟩

/-- A number is less than the power of ten with as many zeros as it has digits. -/
theorem ofDigits_lt (h : ∀ d ∈ ds, d < 10) : ofDigits ds < 10 ^ ds.length := by
  have hfrom : ∀ n, ds.foldl (fun n d => 10 * n + d) n < (n + 1) * 10 ^ ds.length := by
    induction ds with
    | nil => intro n; simp
    | cons d ds ih =>
      intro n
      obtain ⟨hd, hds⟩ := List.forall_mem_cons.mp h
      have hstep : 10 * n + d + 1 ≤ 10 * (n + 1) := by omega
      calc (d :: ds).foldl (fun n d => 10 * n + d) n
          < (10 * n + d + 1) * 10 ^ ds.length := ih hds _
        _ ≤ 10 * (n + 1) * 10 ^ ds.length := Nat.mul_le_mul_right _ hstep
        _ = (n + 1) * 10 ^ (ds.length + 1) := by ring
  simpa [ofDigits] using hfrom 0

/-- What is read as an integer can be written. -/
theorem isWritable_of_readInt? {n : Int} (h : readInt? s = some n) :
    (Value.int n).isWritable = true := by
  unfold readInt? at h
  obtain ⟨ds, hds, h⟩ := Option.bind_eq_some_iff.mp h
  split at h
  · cases h
  · next hlength =>
    have hlt : ofDigits ds < 10 ^ maxDigits :=
      lt_of_lt_of_le (ofDigits_lt (digitRun?_lt hds))
        (Nat.pow_le_pow_right (by decide) (Nat.le_of_not_lt hlength))
    have habs : n.natAbs = ofDigits ds := by
      obtain rfl := Option.some.inj h
      split <;> simp
    have hsign : (Value.int n).isWritable = (Value.int n.natAbs).isWritable := by
      simp only [Value.isWritable, Int.natAbs_natCast]
    rw [hsign, Value.isWritable_int, habs]
    exact hlt

end Text

namespace CommandLine

variable {f : CommandForm} {o : OptionForm} {p q : Parsed}

/-- A value that was given: if it is an integer, it can be written. -/
def Given.Writable : Given → Prop
  | .int n => (Value.int n).isWritable = true
  | _ => True

/-- Can all integers that were given be written? -/
def Parsed.Writable (p : Parsed) : Prop := ∀ g ∈ p.options, g.2.Writable

/-! ## Taking arguments -/

theorem writable_of_readGiven {r : Reading} {s : String} {g : Given}
    (h : readGiven f o r s = .ok g) : g.Writable := by
  unfold readGiven at h
  cases r with
  | int =>
    cases hn : Text.readInt? s.toList with
    | none => simp [hn] at h
    | some n =>
      simp only [hn, Option.map_some, Except.ok.injEq] at h
      rw [← h]
      exact Text.isWritable_of_readInt? hn
  | real =>
    cases hx : Binary64.read? s.toList with
    | none => simp [hx] at h
    | some x =>
      simp only [hx, Option.map_some, Except.ok.injEq] at h
      rw [← h]
      trivial
  | text =>
    cases h
    trivial

namespace Parsed.Writable

theorem addOption {g : Given} (h : p.Writable) (hg : g.Writable) : (p.addOption o g).Writable := by
  intro x hx
  rcases List.mem_append.mp hx with hx | hx
  · exact h x hx
  · rw [List.mem_singleton.mp hx]
    exact hg

theorem withoutValue (h : p.Writable) (hq : withoutValue f o p = .ok q) : q.Writable := by
  unfold CommandLine.withoutValue at hq
  split at hq
  · cases hq
  · cases hq
    exact h.addOption trivial

theorem cluster {s : List Char} (h : p.Writable) (hq : cluster f o s p = .ok q) : q.Writable := by
  induction s generalizing o q with
  | nil => exact h.withoutValue hq
  | cons c s ih =>
    rw [CommandLine.cluster] at hq
    split at hq
    · cases hq
    · obtain ⟨between, hbetween, hq⟩ := bind_eq_ok_iff.mp hq
      exact (ih hbetween).withoutValue hq

theorem withAttached {a : Attached} (h : p.Writable) (hq : withAttached f o a p = .ok q) :
    q.Writable := by
  unfold CommandLine.withAttached at hq
  dsimp only at hq
  split at hq
  · obtain ⟨g, hg, hq⟩ := bind_eq_ok_iff.mp hq
    cases hq
    exact h.addOption (writable_of_readGiven hg)
  · exact h.cluster hq
  · cases hq

/-- Taking arguments keeps it, whatever the arguments are. -/
theorem take {marked : List (String × Mark)} (h : p.Writable) (hq : take f marked p = .ok q) :
    q.Writable := by
  fun_induction CommandLine.take f marked p with
  | case1 =>
    cases hq
    exact h
  | case2 _ _ _ ih => exact ih h hq
  | case3 _ _ _ _ _ ih => exact ih h hq
  | case4 _ _ _ _ _ ih => exact ih h hq
  | case5 _ _ _ _ _ ih => exact ih h hq
  | case6 _ _ _ _ _ _ ih => exact ih h hq
  | case7 _ _ _ _ ih => exact ih h hq
  | case8 _ _ _ _ _ ih =>
    obtain ⟨between, hbetween, hq⟩ := bind_eq_ok_iff.mp hq
    exact ih between (h.withAttached hbetween) hq
  | case9 _ _ _ _ _ _ _ ih =>
    obtain ⟨g, hg, hq⟩ := bind_eq_ok_iff.mp hq
    exact ih g (h.addOption (writable_of_readGiven hg)) hq
  | case10 => cases hq
  | case11 _ _ _ _ _ _ ih =>
    obtain ⟨between, hbetween, hq⟩ := bind_eq_ok_iff.mp hq
    exact ih between (h.withoutValue hbetween) hq

theorem int? {name : String} {n : Int} (h : p.Writable) (hn : p.int? name = some n) :
    (Value.int n).isWritable = true := by
  obtain ⟨g, hg, hint⟩ := List.mem_filterMap.mp (List.mem_of_getLast? hn)
  obtain ⟨x, hx, rfl⟩ := List.mem_map.mp hg
  have hwritable := h x (List.mem_filter.mp hx).1
  split at hint
  · next hgiven =>
    cases hint
    rw [hgiven] at hwritable
    exact hwritable
  · cases hint

end Parsed.Writable

/-! ## Requests -/

variable {args : SolveArguments}

theorem parsed_of_command {before : List String} {command : String} {rest : List String}
    (h : Request.ofCommand before command rest = .ok (.solve args)) :
    ∃ p file, p.Writable ∧ args = .ofParsed p file := by
  unfold Request.ofCommand at h
  split at h
  · obtain ⟨⟨p, file⟩, hfile, h⟩ := bind_eq_ok_iff.mp h
    obtain ⟨-, -, h⟩ := bind_eq_ok_iff.mp h
    cases h
    obtain ⟨p', hp, hoperand⟩ := bind_eq_ok_iff.mp hfile
    obtain ⟨marked, -, htake⟩ := bind_eq_ok_iff.mp hp
    split at hoperand
    · cases hoperand
      exact ⟨p, file, Parsed.Writable.take (p := {}) nofun htake, rfl⟩
    · cases hoperand
  · obtain ⟨⟨p, file⟩, -, h⟩ := bind_eq_ok_iff.mp h
    obtain ⟨-, -, h⟩ := bind_eq_ok_iff.mp h
    cases h
  · cases h

/-- A request to search comes from options and a file behind the name of the command. -/
theorem parsed_of_marked {before : List String} {marked : List (String × Mark)}
    (h : Request.ofMarked before marked = .ok (.solve args)) :
    ∃ p file, p.Writable ∧ args = .ofParsed p file := by
  fun_induction Request.ofMarked before marked with
  | case1 =>
    obtain ⟨-, -, h⟩ := bind_eq_ok_iff.mp h
    cases h
  | case2 => exact parsed_of_command h
  | case3 =>
    obtain ⟨-, -, h⟩ := bind_eq_ok_iff.mp h
    cases h
  | case4 => exact parsed_of_command h
  | case5 _ _ _ ih => exact ih h
  | case6 _ _ _ _ _ ih =>
    obtain ⟨p, -, h⟩ := bind_eq_ok_iff.mp h
    exact ih p h
  | case7 _ _ _ _ _ _ ih =>
    obtain ⟨p, -, h⟩ := bind_eq_ok_iff.mp h
    exact ih p h

/-- Every integer that a search is asked to go by can be written. -/
theorem isWritable_of_arguments {argv : List String}
    (h : Request.ofArguments argv = .ok (.solve args)) {n : Int}
    (hn : args.noise = some n ∨ args.maxFlips = some n ∨ args.maxTries = some n) :
    (Value.int n).isWritable = true := by
  obtain ⟨marked, -, hmarked⟩ := bind_eq_ok_iff.mp h
  obtain ⟨p, file, hp, rfl⟩ := parsed_of_marked hmarked
  rcases hn with hn | hn | hn <;> exact hp.int? hn

end CommandLine

end FlipSat
