/-!
# Cutting texts at a mark

* `splitOn` cuts at every mark and gives one piece more than there are marks;
* `splitAtMost` cuts at the first marks only, so that the last piece may hold marks;
* `cut` cuts at the first mark, `cutLast` at the last one;
* `after?` takes a text off the start of another one.

Cutting is undone by joining the pieces: `joinWith_splitOn`, `joinWith_splitAtMost`, `cut_append`.
Where pieces hold no mark, cutting undoes joining: `splitOn_joinWith`, `splitAtMost_append`.
`IsPiece` says what stands between two marks, and `mem_splitOn_iff` that `splitOn` finds all of
that.
-/

namespace TenantGuard.Text

/-- The pieces of a text between the marks. -/
def splitOn (mark : Char) : List Char → List (List Char)
  | [] => [[]]
  | c :: cs =>
    if c = mark then [] :: splitOn mark cs
    else match splitOn mark cs with
      | [] => [[c]]
      | piece :: pieces => (c :: piece) :: pieces

/-- The pieces of a text, at most `n + 1` of them; the last one holds the rest of the text. -/
def splitAtMost (mark : Char) : Nat → List Char → List (List Char)
  | 0, cs => [cs]
  | _ + 1, [] => [[]]
  | n + 1, c :: cs =>
    if c = mark then [] :: splitAtMost mark n cs
    else match splitAtMost mark (n + 1) cs with
      | [] => [[c]]
      | piece :: pieces => (c :: piece) :: pieces

/-- The text before the first mark, and the text after it if there is a mark. -/
def cut (mark : Char) : List Char → List Char × Option (List Char)
  | [] => ([], none)
  | c :: cs =>
    if c = mark then ([], some cs)
    else
      let (before, after) := cut mark cs
      (c :: before, after)

/-- The text before the last mark and the text after it, if there is a mark. -/
def cutLast (mark : Char) (cs : List Char) : Option (List Char × List Char) :=
  match cut mark cs.reverse with
  | (after, some before) => some (before.reverse, after.reverse)
  | (_, none) => none

/-- What follows a text at the start of another one. -/
def after? (start cs : List Char) : Option (List Char) :=
  if start.isPrefixOf cs then some (cs.drop start.length) else none

/-- Joins pieces with a mark between each two. -/
def joinWith (mark : Char) : List (List Char) → List Char
  | [] => []
  | [piece] => piece
  | piece :: pieces => piece ++ mark :: joinWith mark pieces

theorem joinWith_cons_cons (mark c : Char) (piece : List Char) (pieces : List (List Char)) :
    joinWith mark ((c :: piece) :: pieces) = c :: joinWith mark (piece :: pieces) := by
  cases pieces <;> simp [joinWith]

theorem splitOn_ne_nil (mark : Char) (cs : List Char) : splitOn mark cs ≠ [] := by
  cases cs with
  | nil => simp [splitOn]
  | cons c cs =>
    simp only [splitOn]
    split
    · simp
    · split <;> simp

theorem splitAtMost_ne_nil (mark : Char) (n : Nat) (cs : List Char) :
    splitAtMost mark n cs ≠ [] := by
  fun_induction splitAtMost mark n cs <;> simp_all

/-- Nothing is lost in cutting. -/
theorem joinWith_splitOn (mark : Char) (cs : List Char) :
    joinWith mark (splitOn mark cs) = cs := by
  induction cs with
  | nil => rfl
  | cons c cs ih =>
    simp only [splitOn]
    split
    · next h =>
      cases hs : splitOn mark cs with
      | nil => exact absurd hs (splitOn_ne_nil mark cs)
      | cons p ps => rw [hs] at ih; simp [joinWith, ih, h]
    · split
      · next hs => exact absurd hs (splitOn_ne_nil mark cs)
      · next p ps hs => rw [joinWith_cons_cons, ← hs, ih]

theorem joinWith_splitAtMost (mark : Char) (n : Nat) (cs : List Char) :
    joinWith mark (splitAtMost mark n cs) = cs := by
  fun_induction splitAtMost mark n cs with
  | case1 => rfl
  | case2 => rfl
  | case3 n cs ih =>
    cases hs : splitAtMost mark n cs with
    | nil => exact absurd hs (splitAtMost_ne_nil mark n cs)
    | cons p ps => rw [hs] at ih; simp [joinWith, ih]
  | case4 n c cs h hs ih => exact absurd hs (splitAtMost_ne_nil mark _ cs)
  | case5 n c cs h p ps hs ih => rw [joinWith_cons_cons, ← hs, ih]

theorem splitAtMost_of_not_mem {mark : Char} (n : Nat) {cs : List Char} (h : mark ∉ cs) :
    splitAtMost mark n cs = [cs] := by
  induction cs with
  | nil => cases n <;> rfl
  | cons c cs ih =>
    rw [List.mem_cons, not_or] at h
    cases n with
    | zero => rfl
    | succ n => rw [splitAtMost, if_neg (Ne.symm h.1), ih h.2]

/-- A piece without the mark is cut off. -/
theorem splitAtMost_append {mark : Char} (n : Nat) {piece : List Char} (h : mark ∉ piece)
    (rest : List Char) :
    splitAtMost mark (n + 1) (piece ++ mark :: rest) = piece :: splitAtMost mark n rest := by
  induction piece with
  | nil => rw [List.nil_append, splitAtMost, if_pos rfl]
  | cons c cs ih =>
    rw [List.mem_cons, not_or] at h
    rw [List.cons_append, splitAtMost, if_neg (Ne.symm h.1), ih h.2]

theorem length_splitAtMost_le (mark : Char) (n : Nat) (cs : List Char) :
    (splitAtMost mark n cs).length ≤ n + 1 := by
  fun_induction splitAtMost mark n cs with
  | case1 => simp
  | case2 => simp
  | case3 n cs ih => simpa using ih
  | case4 n c cs h hs ih => simp
  | case5 n c cs h p ps hs ih => simpa [hs] using ih

/-- No piece holds the mark. -/
theorem not_mem_of_mem_splitOn {mark : Char} {cs piece : List Char}
    (h : piece ∈ splitOn mark cs) : mark ∉ piece := by
  induction cs generalizing piece with
  | nil => simp_all [splitOn]
  | cons c cs ih =>
    simp only [splitOn] at h
    split at h
    · rcases List.mem_cons.1 h with rfl | h
      · simp
      · exact ih h
    · split at h
      · next hs => exact absurd hs (splitOn_ne_nil mark cs)
      · next p ps hs =>
        rcases List.mem_cons.1 h with rfl | h
        · have := ih (hs ▸ List.mem_cons_self)
          grind
        · exact ih (hs ▸ List.mem_cons_of_mem _ h)

theorem splitOn_of_not_mem {mark : Char} {cs : List Char} (h : mark ∉ cs) :
    splitOn mark cs = [cs] := by
  induction cs with
  | nil => rfl
  | cons c cs ih =>
    rw [List.mem_cons, not_or] at h
    rw [splitOn, if_neg (Ne.symm h.1), ih h.2]

/-- A text is cut on either side of a mark apart. -/
theorem splitOn_append (mark : Char) (front back : List Char) :
    splitOn mark (front ++ mark :: back) = splitOn mark front ++ splitOn mark back := by
  induction front with
  | nil => exact if_pos rfl
  | cons c front ih =>
    rw [List.cons_append, splitOn, splitOn, ih]
    split
    · rw [List.cons_append]
    · cases hs : splitOn mark front with
      | nil => exact absurd hs (splitOn_ne_nil mark front)
      | cons piece pieces => rfl

/-- What follows a piece starts with a mark, if anything does. -/
theorem joinWith_cons (mark : Char) (piece : List Char) (pieces : List (List Char)) :
    ∃ after, joinWith mark (piece :: pieces) = piece ++ after ∧ ∀ c ∈ after.head?, c = mark := by
  cases pieces with
  | nil => exact ⟨[], (List.append_nil piece).symm, nofun⟩
  | cons next pieces =>
    exact ⟨mark :: joinWith mark (next :: pieces), rfl, fun c hc => (Option.some.inj hc).symm⟩

/-- What comes before a piece ends with a mark, if there is anything. -/
theorem joinWith_append (mark : Char) (front : List (List Char)) (piece : List Char)
    (pieces : List (List Char)) :
    ∃ before, joinWith mark (front ++ piece :: pieces) = before ++ joinWith mark (piece :: pieces) ∧
      ∀ c ∈ before.getLast?, c = mark := by
  induction front with
  | nil => exact ⟨[], rfl, nofun⟩
  | cons first front ih =>
    obtain ⟨before, hjoin, hlast⟩ := ih
    refine ⟨first ++ mark :: before, ?_, fun c hc => ?_⟩
    · have hfirst : joinWith mark (first :: (front ++ piece :: pieces)) =
          first ++ mark :: joinWith mark (front ++ piece :: pieces) := by
        cases front <;> rfl
      rw [List.append_assoc, List.cons_append, List.cons_append, hfirst, hjoin]
    · rw [List.getLast?_append, List.getLast?_cons] at hc
      cases hbefore : before.getLast? with
      | none =>
        rw [hbefore] at hc
        exact (Option.some.inj hc).symm
      | some d =>
        rw [hbefore] at hc
        exact hlast c (hbefore.trans hc)

/-- **A piece of a text**: what stands between two marks, or between a mark and an end. -/
def IsPiece (mark : Char) (cs piece : List Char) : Prop :=
  mark ∉ piece ∧ ∃ before after, cs = before ++ (piece ++ after) ∧
    (∀ c ∈ before.getLast?, c = mark) ∧ ∀ c ∈ after.head?, c = mark

/-- **Cutting finds the pieces of a text**, and all of them. -/
theorem mem_splitOn_iff {mark : Char} {cs piece : List Char} :
    piece ∈ splitOn mark cs ↔ IsPiece mark cs piece := by
  constructor
  · intro h
    refine ⟨not_mem_of_mem_splitOn h, ?_⟩
    obtain ⟨front, back, hsplit⟩ := List.append_of_mem h
    obtain ⟨before, hbefore, hlast⟩ := joinWith_append mark front piece back
    obtain ⟨after, hafter, hhead⟩ := joinWith_cons mark piece back
    refine ⟨before, after, ?_, hlast, hhead⟩
    rw [← joinWith_splitOn mark cs, hsplit, hbefore, hafter]
  · rintro ⟨hpiece, before, after, rfl, hlast, hhead⟩
    have hback : piece ∈ splitOn mark (piece ++ after) := by
      cases after with
      | nil =>
        rw [List.append_nil, splitOn_of_not_mem hpiece]
        exact List.mem_singleton_self piece
      | cons c after =>
        cases hhead c rfl
        rw [splitOn_append, splitOn_of_not_mem hpiece]
        exact List.mem_cons_self
    rcases List.eq_nil_or_concat before with rfl | ⟨front, c, rfl⟩
    · exact hback
    · rw [List.concat_eq_append] at hlast ⊢
      cases hlast c List.getLast?_concat
      rw [List.append_assoc, List.singleton_append, splitOn_append]
      exact List.mem_append_right _ hback

/-- **Joining is undone by cutting** where no piece holds the mark. -/
theorem splitOn_joinWith {mark : Char} : ∀ {pieces : List (List Char)}, pieces ≠ [] →
    (∀ piece ∈ pieces, mark ∉ piece) → splitOn mark (joinWith mark pieces) = pieces
  | [], hne, _ => absurd rfl hne
  | [piece], _, h => splitOn_of_not_mem (h piece List.mem_cons_self)
  | piece :: next :: pieces, _, h => by
    obtain ⟨hpiece, hrest⟩ := List.forall_mem_cons.1 h
    rw [joinWith, splitOn_append, splitOn_of_not_mem hpiece,
      splitOn_joinWith (List.cons_ne_nil next pieces) hrest, List.singleton_append]
    exact List.cons_ne_nil next pieces

/-- What stands in joined pieces is a mark or stands in a piece. -/
theorem mem_joinWith {mark c : Char} : ∀ {pieces : List (List Char)}, c ∈ joinWith mark pieces →
    c = mark ∨ ∃ piece ∈ pieces, c ∈ piece
  | [piece], h => .inr ⟨piece, List.mem_cons_self, h⟩
  | piece :: next :: pieces, h => by
    rw [joinWith, List.mem_append, List.mem_cons] at h
    rcases h with h | rfl | h
    · exact .inr ⟨piece, List.mem_cons_self, h⟩
    · exact .inl rfl
    · exact (mem_joinWith h).imp_right fun ⟨p, hp, hc⟩ => ⟨p, List.mem_cons_of_mem _ hp, hc⟩
    · exact List.cons_ne_nil next pieces

theorem cut_append (mark : Char) (cs : List Char) :
    (cut mark cs).1 ++ (cut mark cs).2.elim [] (mark :: ·) = cs := by
  induction cs with
  | nil => rfl
  | cons c cs ih =>
    simp only [cut]
    split
    · simp_all
    · simpa using ih

end TenantGuard.Text
