import FlipSat.Problem.Instance
import FlipSat.Proofs.EraseDups

/-
  FlipSat: a vocabulary numbers its propositions in the order in which their names are first met.
  `Sound` says that each proposition stands at its own index and that names are looked up where
  they stand. Interning keeps a vocabulary sound, adds at most one proposition, at the end, and
  leaves the others where they are (`names_internAll`, `prefix_internAll`).
-/
namespace FlipSat

/-- The literal as it is written. -/
def Literal.spec (l : Literal) : LiteralSpec := ⟨l.proposition.name, !l.isPositive⟩

/-- Propositions that stand at their indices, no two with the same name. -/
structure Enumerated (xs : Array Proposition) : Prop where
  index_eq : ∀ (i : Nat) (x : Proposition), xs[i]? = some x → x.index = i
  names_nodup : (xs.toList.map (·.name)).Nodup

namespace Enumerated

variable {xs ys : Array Proposition} {x y : Proposition}

theorem index_eq_place (h : Enumerated xs) (hx : x ∈ xs) : x.index = x.place := by
  obtain ⟨i, hi⟩ := Array.mem_iff_getElem?.mp hx
  rw [Proposition.place, h.index_eq i x hi, Int.toNat_natCast]

theorem getElem?_place (h : Enumerated xs) (hx : x ∈ xs) : xs[x.place]? = some x := by
  obtain ⟨i, hi⟩ := Array.mem_iff_getElem?.mp hx
  rw [Proposition.place, h.index_eq i x hi, Int.toNat_natCast, hi]

theorem eq_of_name_eq (h : Enumerated xs) (hx : x ∈ xs) (hy : y ∈ xs) (he : x.name = y.name) :
    x = y :=
  List.inj_on_of_nodup_map h.names_nodup (by simpa using hx) (by simpa using hy) he

theorem eq_of_place_eq (h : Enumerated xs) (hx : x ∈ xs) (hy : y ∈ xs) (he : x.place = y.place) :
    x = y := by
  have hi := h.getElem?_place hx
  rw [he, h.getElem?_place hy] at hi
  exact (Option.some.inj hi).symm

/-- Literals over the propositions are told apart by how they are written. -/
theorem eq_of_spec_eq (h : Enumerated xs) {l m : Literal} (hl : l.proposition ∈ xs)
    (hm : m.proposition ∈ xs) (he : l.spec = m.spec) : l = m := by
  obtain ⟨x, b⟩ := l
  obtain ⟨y, c⟩ := m
  simp only [Literal.spec, LiteralSpec.mk.injEq, Bool.not_inj_iff] at he
  have hxy : x = y := h.eq_of_name_eq hl hm he.1
  rw [hxy, he.2]

theorem of_prefix (h : Enumerated ys) (hp : xs.toList <+: ys.toList) : Enumerated xs where
  index_eq i x hx := by
    obtain ⟨zs, hz⟩ := hp
    refine h.index_eq i x ?_
    rw [← Array.getElem?_toList] at hx ⊢
    rw [← hz, List.getElem?_append_left (List.getElem?_eq_some_iff.mp hx).1, hx]
  names_nodup := (hp.map _).sublist.nodup h.names_nodup

end Enumerated

namespace Vocabulary

variable {v : Vocabulary} {name : String} {x : Proposition}

/-- The names in the order of their propositions. -/
def names (v : Vocabulary) : List String := v.propositions.toList.map (·.name)

/-- Each proposition stands at its index, and each name is looked up where its proposition
    stands. -/
structure Sound (v : Vocabulary) : Prop where
  index_eq : ∀ (i : Nat) (x : Proposition), v.propositions[i]? = some x → x.index = i
  place_iff : ∀ (name : String) (k : Nat),
    v.places[name]? = some k ↔ ∃ x, v.propositions[k]? = some x ∧ x.name = name

theorem sound_empty : Sound {} where
  index_eq i x h := by simp at h
  place_iff name k := by simp

theorem Sound.enumerated (h : v.Sound) : Enumerated v.propositions where
  index_eq := h.index_eq
  names_nodup := by
    rw [List.nodup_iff_getElem?_ne_getElem?]
    intro i j hij hj heq
    have hjs : j < v.propositions.size := by simpa using hj
    have his : i < v.propositions.size := by omega
    have ha := (h.place_iff (v.propositions[j].name) j).mpr ⟨_, by simp [hjs], rfl⟩
    have hb := (h.place_iff (v.propositions[j].name) i).mpr
      ⟨v.propositions[i], by simp [his], by simpa [his, hjs] using heq⟩
    exact Nat.ne_of_lt hij (Option.some.inj (hb.symm.trans ha))

theorem Sound.find?_eq_some_iff (h : v.Sound) :
    v.find? name = some x ↔ x ∈ v.propositions ∧ x.name = name := by
  rw [find?, Option.bind_eq_some_iff]
  constructor
  · rintro ⟨k, hk, hx⟩
    obtain ⟨y, hy, hn⟩ := (h.place_iff name k).mp hk
    rw [hx] at hy
    cases hy
    exact ⟨Array.mem_of_getElem? hx, hn⟩
  · rintro ⟨hx, hn⟩
    have hi := h.enumerated.getElem?_place hx
    exact ⟨x.place, (h.place_iff name _).mpr ⟨x, hi, hn⟩, hi⟩

theorem Sound.find?_eq_none_iff (h : v.Sound) : v.find? name = none ↔ name ∉ v.names := by
  rw [← not_iff_not, not_not, ← ne_eq, Option.ne_none_iff_exists', names, List.mem_map]
  simp only [h.find?_eq_some_iff, Array.mem_toList_iff]

/-! ## Interning -/

/-- What interning a name does: nothing if there is a proposition with the name, and otherwise it
    puts one at the end. -/
theorem Sound.intern_cases (h : v.Sound) (name : String) :
    (∃ x ∈ v.propositions, x.name = name ∧ v.intern name = (x, v)) ∨
      (name ∉ v.names ∧ v.intern name = (⟨name, v.size, 0⟩,
        ⟨v.propositions.push ⟨name, v.size, 0⟩, v.places.insert name v.size⟩)) := by
  unfold intern
  cases hf : v.find? name with
  | some x =>
    obtain ⟨hx, hn⟩ := h.find?_eq_some_iff.mp hf
    exact .inl ⟨x, hx, hn, rfl⟩
  | none => exact .inr ⟨h.find?_eq_none_iff.mp hf, rfl⟩

theorem Sound.intern (h : v.Sound) (name : String) : (v.intern name).2.Sound := by
  rcases h.intern_cases name with ⟨x, -, -, he⟩ | ⟨hn, he⟩
  · rw [he]
    exact h
  · rw [he]
    refine ⟨fun i x hx => ?_, fun other k => ?_⟩
    · rw [Array.getElem?_push] at hx
      have := h.index_eq i x
      grind [size]
    · dsimp only
      rw [Std.HashMap.getElem?_insert, Array.getElem?_push]
      have hp := h.place_iff other k
      have hno : ∀ x, v.propositions[k]? = some x → x.name ≠ name := by
        intro x hx hxn
        exact hn (List.mem_map.mpr ⟨x, by simpa using Array.mem_of_getElem? hx, hxn⟩)
      by_cases hk : k = v.propositions.size
      · subst hk
        by_cases ho : name = other
        · simp [ho, size]
        · simpa [ho] using hp
      · by_cases ho : name = other
        · subst ho
          simpa [hk, size, Ne.symm hk] using hno
        · simpa [ho, hk] using hp

theorem names_intern (h : v.Sound) (name : String) :
    (v.intern name).2.names = (v.names ++ [name]).eraseDups := by
  have hd : v.names.eraseDups = v.names := eraseDups_of_nodup h.enumerated.names_nodup
  rw [eraseDups_concat, hd]
  rcases h.intern_cases name with ⟨x, hx, hn, he⟩ | ⟨hn, he⟩
  · have : name ∈ v.names := List.mem_map.mpr ⟨x, by simpa using hx, hn⟩
    rw [he, if_pos this]
  · rw [he, if_neg hn]
    simp [names]

theorem prefix_intern (v : Vocabulary) (name : String) :
    v.propositions.toList <+: (v.intern name).2.propositions.toList := by
  unfold intern
  cases v.find? name with
  | some x => exact List.prefix_refl _
  | none => simp

theorem name_intern (h : v.Sound) (name : String) : (v.intern name).1.name = name := by
  rcases h.intern_cases name with ⟨x, -, hn, he⟩ | ⟨-, he⟩
  · rw [he]
    exact hn
  · rw [he]

theorem mem_intern (h : v.Sound) (name : String) :
    (v.intern name).1 ∈ (v.intern name).2.propositions := by
  rcases h.intern_cases name with ⟨x, hx, -, he⟩ | ⟨-, he⟩
  · rw [he]
    exact hx
  · rw [he]
    simp

theorem internAll_cons (v : Vocabulary) (l : LiteralSpec) (ls : ClauseSpec) :
    v.internAll (l :: ls) =
      (⟨(v.intern l.name).1, !l.negated⟩ :: ((v.intern l.name).2.internAll ls).1,
        ((v.intern l.name).2.internAll ls).2) := rfl

theorem Sound.internAll (h : v.Sound) (c : ClauseSpec) : (v.internAll c).2.Sound := by
  induction c generalizing v with
  | nil => exact h
  | cons l ls ih => exact ih (h.intern l.name)

theorem prefix_internAll (v : Vocabulary) (c : ClauseSpec) :
    v.propositions.toList <+: (v.internAll c).2.propositions.toList := by
  induction c generalizing v with
  | nil => exact List.prefix_refl _
  | cons l ls ih => exact (prefix_intern v l.name).trans (ih (v.intern l.name).2)

/-- Names are added in the order in which they are first met. -/
theorem names_internAll (h : v.Sound) (c : ClauseSpec) :
    (v.internAll c).2.names = (v.names ++ c.map (·.name)).eraseDups := by
  induction c generalizing v with
  | nil =>
    rw [List.map_nil, List.append_nil]
    exact (eraseDups_of_nodup h.enumerated.names_nodup).symm
  | cons l ls ih =>
    rw [internAll_cons, ih (h.intern l.name), names_intern h, eraseDups_eraseDups_append,
      List.append_assoc]
    rfl

/-- The literals are the ones that were written. -/
theorem spec_internAll (h : v.Sound) (c : ClauseSpec) :
    (v.internAll c).1.map Literal.spec = c := by
  induction c generalizing v with
  | nil => rfl
  | cons l ls ih =>
    rw [internAll_cons, List.map_cons, ih (h.intern l.name)]
    simp [Literal.spec, name_intern h]

theorem mem_internAll (h : v.Sound) (c : ClauseSpec) :
    ∀ l ∈ (v.internAll c).1, l.proposition ∈ (v.internAll c).2.propositions := by
  induction c generalizing v with
  | nil => simp [internAll]
  | cons l ls ih =>
    intro m hm
    rw [internAll_cons] at hm ⊢
    rcases List.mem_cons.mp hm with rfl | hm
    · have hp := (prefix_internAll (v.intern l.name).2 ls).subset
      exact Array.mem_toList_iff.mp (hp (Array.mem_toList_iff.mpr (mem_intern h l.name)))
    · exact ih (h.intern l.name) m hm

end Vocabulary

end FlipSat
