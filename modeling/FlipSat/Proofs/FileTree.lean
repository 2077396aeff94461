import FlipSat.FileTree
import FlipSat.Proofs.Blank
import FlipSat.Proofs.Except

/-
  FlipSat: files in a tree.
  The way of a path is made of the names in it alone (`follow_eq`); what stands in the tree only
  says whether the way can be gone. Putting a file at the end of a way takes no directory away, so
  every path that could be followed still can (`resolve_put`). Hence what is written is read back
  (`Wrote.read`), what is added stands at the end (`wrote_of_append`), and files at other ways are
  left alone (`Wrote.read_other`).
-/
namespace FlipSat.FileTree

variable {t t' : FileTree} {path other : String} {way w v : List String} {names : List String}
  {node : FileNode} {contents bytes : ByteArray} {closed : Bool}

/-- The way that the names of a path make. -/
def wayOf (path : String) : List String := (parts path).1.foldl step []

/-! ## Following paths -/

theorem follow_eq (h : t.follow path w names = .ok v) : v = names.foldl step w := by
  induction names generalizing w with
  | nil =>
    cases h
    rfl
  | cons name names ih =>
    rw [follow] at h
    split at h
    · cases h
    · cases h
    · cases h
    · exact ih h

theorem resolve_eq_ok_iff : t.resolve path = .ok (way, closed) ↔
    pathFault? path = none ∧ t.follow path [] (parts path).1 = .ok way ∧
      closed = (parts path).2 := by
  unfold resolve
  cases pathFault? path with
  | some e => simp [throw, throwThe, MonadExceptOf.throw, bind, Except.bind]
  | none =>
    rcases hfollow : t.follow path [] (parts path).1 with e | v
    · simp [bind, Except.bind, hfollow]
    · simp [bind, Except.bind, pure, Except.pure, hfollow, eq_comm]

/-- Where a path leads does not depend on the tree. -/
theorem eq_wayOf (h : t.resolve path = .ok (way, closed)) : way = wayOf path :=
  follow_eq (resolve_eq_ok_iff.mp h).2.1

theorem read_eq_ok_iff : t.read path = .ok contents ↔
    ∃ way, t.resolve path = .ok (way, false) ∧ t.node? way = some (.file contents) := by
  unfold read
  rw [bind_eq_ok_iff]
  constructor
  · rintro ⟨⟨way, closed⟩, hresolve, h⟩
    dsimp only at h
    split at h
    · cases h
    · cases h
    · next hnode =>
      cases closed with
      | true => cases h
      | false =>
        cases h
        exact ⟨way, hresolve, hnode⟩
  · rintro ⟨way, hresolve, hnode⟩
    refine ⟨(way, false), hresolve, ?_⟩
    simp only [hnode]
    rfl

/-- A file can be put where a path leads if no directory stands there. -/
theorem fileWay_eq_ok_iff : t.fileWay path = .ok way ↔
    t.resolve path = .ok (way, false) ∧ t.node? way ≠ some .directory := by
  unfold fileWay
  rw [bind_eq_ok_iff]
  constructor
  · rintro ⟨⟨v, closed⟩, hresolve, h⟩
    dsimp only at h
    split at h
    · cases h
    · next hnode =>
      cases closed with
      | true => cases h
      | false =>
        cases h
        exact ⟨hresolve, hnode⟩
  · rintro ⟨hresolve, hnode⟩
    refine ⟨(way, false), hresolve, ?_⟩
    dsimp only
    split
    · next h => exact absurd h hnode
    · rfl

/-! ## Putting nodes -/

section Lookup

variable {es : List (List String × FileNode)}

theorem lookup_replace_self (h : (es.lookup way).isSome) :
    (es.map fun e => if e.1 == way then (way, node) else e).lookup way = some node := by
  induction es with
  | nil => cases h
  | cons e es ih =>
    rw [List.map_cons]
    by_cases he : e.1 = way
    · rw [if_pos (beq_iff_eq.mpr he), List.lookup_cons_self]
    · have hne : (way == e.1) = false := beq_eq_false_iff_ne.mpr (Ne.symm he)
      rw [if_neg (by simpa using he), List.lookup_cons, hne]
      rw [List.lookup_cons, hne] at h
      exact ih h

theorem lookup_replace_of_ne (h : w ≠ way) :
    (es.map fun e => if e.1 == way then (way, node) else e).lookup w = es.lookup w := by
  induction es with
  | nil => rfl
  | cons e es ih =>
    rw [List.map_cons, List.lookup_cons, ih, List.lookup_cons]
    by_cases he : e.1 = way
    · have hne : (w == way) = false := beq_eq_false_iff_ne.mpr h
      rw [if_pos (beq_iff_eq.mpr he), he, hne]
    · rw [if_neg (by simpa using he)]

end Lookup

theorem node?_put_self (h : t.node? way ≠ some .directory) :
    (t.put way node).node? way = some node := by
  unfold node? at h ⊢
  split at h
  · exact absurd rfl h
  · next hplain =>
    rw [if_neg hplain]
    unfold put
    cases hl : t.nodes.lookup way with
    | none => simp [List.lookup_append, hl]
    | some n => exact lookup_replace_self (by rw [hl]; rfl)

theorem node?_put_of_ne (h : w ≠ way) : (t.put way node).node? w = t.node? w := by
  unfold node?
  split
  · rfl
  · unfold put
    cases t.nodes.lookup way with
    | none =>
      have hne : (w == way) = false := beq_eq_false_iff_ne.mpr h
      simp [List.lookup_append, List.lookup_cons, hne]
    | some n => exact lookup_replace_of_ne h

/-- Only the last of two nodes at one way counts. -/
theorem put_put {last : FileNode} (h : t.node? way ≠ some .directory) :
    (t.put way node).put way last = t.put way last := by
  have hself : (t.put way node).nodes.lookup way = some node := by
    have hnode : (t.put way node).node? way = some node := node?_put_self h
    unfold node? at h hnode
    split at h
    · exact absurd rfl h
    · next hplain => rwa [if_neg hplain] at hnode
  unfold put at hself ⊢
  cases hl : t.nodes.lookup way with
  | none =>
    have hother : ∀ e ∈ t.nodes, (if e.1 == way then (way, last) else e) = e := by
      intro e he
      have hne : e.1 ≠ way := by
        rintro rfl
        simpa using List.lookup_eq_none_iff.mp hl e he
      rw [if_neg (by simpa using hne)]
    rw [hl] at hself
    dsimp only at hself ⊢
    rw [hself]
    dsimp only
    rw [List.map_append, List.map_congr_left hother]
    simp
  | some n =>
    rw [hl] at hself
    dsimp only at hself ⊢
    rw [hself]
    dsimp only
    rw [List.map_map]
    congr 1
    refine List.map_congr_left fun e _ => ?_
    by_cases he : e.1 = way <;> simp [he]

/-- What stood at a way where no directory stood was passed by no path. -/
theorem follow_put (hway : t.node? way ≠ some .directory) (h : t.follow path w names = .ok v) :
    (t.put way node).follow path w names = .ok v := by
  induction names generalizing w with
  | nil => exact h
  | cons name names ih =>
    rw [follow] at h ⊢
    split at h
    · cases h
    · cases h
    · cases h
    · next hnode hname =>
      have hne : w ≠ way := by
        rintro rfl
        exact hway hnode
      rw [node?_put_of_ne hne, hnode, hname]
      exact ih h

theorem resolve_put (hway : t.node? way ≠ some .directory)
    (h : t.resolve path = .ok (w, closed)) : (t.put way node).resolve path = .ok (w, closed) := by
  obtain ⟨hfault, hfollow, hclosed⟩ := resolve_eq_ok_iff.mp h
  exact resolve_eq_ok_iff.mpr ⟨hfault, follow_put hway hfollow, hclosed⟩

/-! ## Writing and reading -/

/-- A tree is another one but for the file at a path. -/
structure Wrote (t : FileTree) (path : String) (contents : ByteArray) (t' : FileTree) : Prop where
  fileWay : t.fileWay path = .ok (wayOf path)
  put_eq : t' = t.put (wayOf path) (.file contents)

theorem write_eq_ok_iff : t.write path contents = .ok t' ↔ t.Wrote path contents t' := by
  unfold write
  rw [bind_eq_ok_iff]
  constructor
  · rintro ⟨way, hway, h⟩
    obtain rfl := eq_wayOf (fileWay_eq_ok_iff.mp hway).1
    cases h
    exact ⟨hway, rfl⟩
  · rintro ⟨hway, rfl⟩
    exact ⟨_, hway, rfl⟩

/-- Adding to a file that can be read writes it with the addition. -/
theorem wrote_of_append {text : String} (h : t.append path text = .ok t')
    (hread : t.read path = .ok contents) : t.Wrote path (contents ++ text.toUTF8) t' := by
  obtain ⟨way, hway, h⟩ := bind_eq_ok_iff.mp h
  obtain ⟨v, hresolve, hnode⟩ := read_eq_ok_iff.mp hread
  obtain rfl := eq_wayOf hresolve
  obtain rfl := eq_wayOf (fileWay_eq_ok_iff.mp hway).1
  rw [hnode] at h
  cases h
  exact ⟨hway, rfl⟩

namespace Wrote

theorem read (h : t.Wrote path contents t') : t'.read path = .ok contents := by
  obtain ⟨hresolve, hnode⟩ := fileWay_eq_ok_iff.mp h.fileWay
  rw [h.put_eq]
  exact read_eq_ok_iff.mpr ⟨_, resolve_put hnode hresolve, node?_put_self hnode⟩

theorem node?_eq (h : t.Wrote path contents t') (hw : w ≠ wayOf path) :
    t'.node? w = t.node? w := by
  rw [h.put_eq]
  exact node?_put_of_ne hw

/-- Of two writes to one path the last counts. -/
theorem trans {t₁ t₂ : FileTree} {last : ByteArray} (h : t.Wrote path contents t₁)
    (hlast : t₁.Wrote path last t₂) : t.Wrote path last t₂ where
  fileWay := h.fileWay
  put_eq := by
    rw [hlast.put_eq, h.put_eq, put_put (fileWay_eq_ok_iff.mp h.fileWay).2]

/-- A file at another way is left as it is. -/
theorem read_other (h : t.Wrote path contents t') (hother : wayOf other ≠ wayOf path)
    (hread : t.read other = .ok bytes) : t'.read other = .ok bytes := by
  obtain ⟨-, hnode⟩ := fileWay_eq_ok_iff.mp h.fileWay
  obtain ⟨v, hresolve, hv⟩ := read_eq_ok_iff.mp hread
  obtain rfl := eq_wayOf hresolve
  rw [← h.node?_eq hother] at hv
  rw [h.put_eq] at hv ⊢
  exact read_eq_ok_iff.mpr ⟨_, resolve_put hnode hresolve, hv⟩

end Wrote

/-! ## Names of files -/

variable {s : String}

/-- A text behind a path that does not break it belongs to its last name. -/
theorem parts_append (path : String) : ∃ names last, ∀ s : String, '/' ∉ s.toList → s ≠ "" →
    parts (path ++ s) = (names ++ [last ++ s], false) := by
  obtain ⟨front, last, hpath, happend⟩ := splitOnP_append (· == '/') path.toList
  refine ⟨(if front.head? = some [] then [top] else []) ++
    (front.map String.ofList).filter (· != ""), String.ofList last, fun s hs hne => ?_⟩
  have hpieces := happend s.toList (by simpa using fun c hc (h : c = '/') => hs (h ▸ hc))
  have hlast : String.ofList (last ++ s.toList) = String.ofList last ++ s := by simp
  have hname : String.ofList last ++ s ≠ "" := by simp [hne]
  unfold parts
  rw [Text.splitOn, splitWhere_eq, String.toList_append, hpieces, List.map_append,
    List.map_singleton, hlast]
  cases front with
  | nil => simp [hname]
  | cons first front =>
    by_cases hfirst : first = []
    · simp [hfirst, hname, List.getLast?_cons]
    · simp [hfirst, hname, List.getLast?_cons]

/-- A text behind the name of a file belongs to its path. -/
theorem join_append (directory name : String) : ∃ path, ∀ s : String, '/' ∉ s.toList → s ≠ "" →
    join directory (name ++ s) = path ++ s := by
  have hstart : ∀ s : String, '/' ∉ s.toList → s ≠ "" →
      (name ++ s).startsWith "/" = name.startsWith "/" := by
    intro s hs hne
    rw [Bool.eq_iff_iff, String.startsWith_string_iff, String.startsWith_string_iff,
      String.toList_append]
    cases hname : name.toList with
    | nil =>
      cases hchars : s.toList with
      | nil => exact absurd (String.toList_eq_nil_iff.mp hchars) hne
      | cons c cs =>
        have hc : c ≠ '/' := by
          rintro rfl
          exact hs (hchars ▸ List.mem_cons_self)
        simpa using Ne.symm hc
    | cons c cs => simp
  refine ⟨join directory name, fun s hs hne => ?_⟩
  unfold join
  rw [hstart s hs hne]
  split
  · rfl
  · split
    · rw [String.append_assoc]
    · rw [String.append_assoc, String.append_assoc, String.append_assoc]

theorem step_of_long {name : String} (h : 2 < name.length) : step way name = way ++ [name] := by
  have hdot : name ≠ "." := by
    rintro rfl
    exact absurd h (by decide)
  have hdots : name ≠ ".." := by
    rintro rfl
    exact absurd h (by decide)
  unfold step
  rw [if_neg (by simpa using hdot), if_neg (by simpa using hdots)]

/-- Files with different endings of one name stand at different ways. -/
theorem wayOf_join_ne {directory name u : String} (hs : '/' ∉ s.toList) (hu : '/' ∉ u.toList)
    (hsl : 2 < s.length) (hul : 2 < u.length) (hne : s ≠ u) :
    wayOf (join directory (name ++ s)) ≠ wayOf (join directory (name ++ u)) := by
  have hfull : ∀ v : String, 2 < v.length → v ≠ "" := by
    rintro v hv rfl
    exact absurd hv (by decide)
  obtain ⟨path, hpath⟩ := join_append directory name
  obtain ⟨names, last, hparts⟩ := parts_append path
  have hway : ∀ v : String, '/' ∉ v.toList → 2 < v.length →
      wayOf (join directory (name ++ v)) = names.foldl step [] ++ [last ++ v] := by
    intro v hv hlen
    unfold wayOf
    rw [hpath v hv (hfull v hlen), hparts v hv (hfull v hlen), List.foldl_append, List.foldl_cons,
      List.foldl_nil, step_of_long (by rw [String.length_append]; omega)]
  rw [hway s hs hsl, hway u hu hul]
  simpa using hne

end FlipSat.FileTree
