import TenantGuard.Email
import TenantGuard.Text.Utf8

/-!
# Which texts are email addresses

An address is `local@domain`.  The local part is made of atoms with a dot between each two, the
domain of labels with a dot between each two, of which the last one is a word of letters.

* `IsAtom`, `IsLabel` and `IsTopLabel` are the parts, and `IsAddress` puts them together;
* `nil_mem_splitOn_iff`: a text has an empty piece just if it is empty, begins or ends with a mark,
  or holds two marks side by side;
* `isLocalPart_iff` and `isDomain_iff`: the two sides of the `@`;
* `isValid_iff_isAddress`: the addresses are accepted, and nothing else.
-/

namespace TenantGuard

namespace Text

variable {mark : Char} {cs : List Char}

/-- **A text has an empty piece** where a mark meets an end or another mark. -/
theorem nil_mem_splitOn_iff : [] ∈ splitOn mark cs ↔
    cs = [] ∨ cs.head? = some mark ∨ cs.getLast? = some mark ∨
      ∃ front back, cs = front ++ mark :: mark :: back := by
  rw [mem_splitOn_iff]
  constructor
  · rintro ⟨-, before, after, rfl, hlast, hhead⟩
    rw [List.nil_append]
    rcases List.eq_nil_or_concat before with rfl | ⟨front, c, rfl⟩
    · cases after with
      | nil => exact .inl rfl
      | cons d back => exact .inr (.inl (congrArg some (hhead d rfl)))
    · rw [List.concat_eq_append] at hlast ⊢
      cases hlast c List.getLast?_concat
      cases after with
      | nil => exact .inr (.inr (.inl (by rw [List.append_nil, List.getLast?_concat])))
      | cons d back =>
        cases hhead d rfl
        exact .inr (.inr (.inr ⟨front, back, by simp⟩))
  · intro h
    refine ⟨List.not_mem_nil, ?_⟩
    rcases h with rfl | h | h | ⟨front, back, rfl⟩
    · exact ⟨[], [], rfl, nofun, nofun⟩
    · refine ⟨[], cs, rfl, nofun, fun c hc => ?_⟩
      exact Option.some.inj (hc.symm.trans h)
    · refine ⟨cs, [], by simp, fun c hc => ?_, nofun⟩
      exact Option.some.inj (hc.symm.trans h)
    · refine ⟨front ++ [mark], mark :: back, by simp, fun c hc => ?_, fun c hc => ?_⟩
      · rw [List.getLast?_concat] at hc
        exact (Option.some.inj hc).symm
      · exact (Option.some.inj hc).symm

end Text

namespace Email

open Text (isBlank splitOn joinWith)

variable {c : Char} {cs : List Char}

/-! ## The form of an address -/

/-- **What an atom may hold** besides letters and digits, one sign apart. -/
def atomSigns : List Char := "!#$%&'*+-/=?^_\x60\x7b|\x7d~".toList

/-- **An atom**: letters, digits and signs, of which the bar is left out. -/
structure IsAtom (cs : List Char) : Prop where
  ne_nil : cs ≠ []
  char : ∀ c ∈ cs, c.isAlphanum = true ∨ c ∈ atomSigns ∧ c ≠ '|'

/-- **A label**: letters, digits and hyphens, with no hyphen at an end. -/
structure IsLabel (cs : List Char) : Prop where
  ne_nil : cs ≠ []
  char : ∀ c ∈ cs, c.isAlphanum = true ∨ c = '-'
  head : cs.head? ≠ some '-'
  last : cs.getLast? ≠ some '-'

/-- **A top label**: letters, and at least two. -/
structure IsTopLabel (cs : List Char) : Prop where
  char : ∀ c ∈ cs, c.isAlpha = true
  two_le : 2 ≤ cs.length

/-- **An address**, made of some atoms and some labels. -/
structure IsAddress (cs : List Char) (atoms labels : List (List Char)) : Prop where
  form : cs = joinWith '.' atoms ++ '@' :: joinWith '.' labels
  atoms_ne_nil : atoms ≠ []
  atom : ∀ a ∈ atoms, IsAtom a
  two_le : 2 ≤ labels.length
  label : ∀ l ∈ labels, IsLabel l
  top : ∀ l ∈ labels.getLast?, IsTopLabel l

/-! ## Characters -/

theorem mem_localSpecials_iff : c ∈ localSpecials ↔ c ∈ atomSigns ∧ c ≠ '|' := by
  have hperm : List.Perm localSpecials (atomSigns.filter (· ≠ '|')) := by decide
  rw [hperm.mem_iff, List.mem_filter, decide_eq_true_eq]

theorem isLocalChar_iff :
    isLocalChar c = true ↔ (c.isAlphanum = true ∨ c ∈ atomSigns ∧ c ≠ '|') ∨ c = '.' := by
  rw [isLocalChar, Bool.or_eq_true, Bool.or_eq_true, beq_iff_eq, List.contains_iff_mem,
    mem_localSpecials_iff, or_right_comm]

/-- What may stand on either side of the `@` is no blank, and no `@`. -/
theorem plain_of_isLocalChar (h : isLocalChar c = true) : isBlank c = false ∧ c ≠ '@' := by
  have hsigns : localSpecials.all (fun s => isBlank s = false ∧ s ≠ '@') = true := by decide
  rw [isLocalChar, Bool.or_eq_true, Bool.or_eq_true, beq_iff_eq, List.contains_iff_mem] at h
  rcases h with (h | rfl) | h
  · obtain ⟨hlow, hhigh⟩ := Text.Utf8.toNat_of_isAlphanum h
    refine ⟨?_, ?_⟩
    · simp only [isBlank, Bool.or_eq_false_iff, Bool.and_eq_false_iff, decide_eq_false_iff_not,
        beq_eq_false_iff_ne]
      omega
    · rintro rfl
      exact absurd h (by decide)
  · decide
  · exact of_decide_eq_true (List.all_eq_true.1 hsigns c h)

theorem not_dot_of_char (h : c.isAlphanum = true ∨ c ∈ atomSigns ∧ c ≠ '|') : c ≠ '.' := by
  rintro rfl
  exact absurd h (by decide)

/-! ## The local part -/

theorem hasDoubleDot_iff : hasDoubleDot cs = true ↔
    ∃ front back, cs = front ++ '.' :: '.' :: back := by
  fun_induction hasDoubleDot cs with
  | case1 back => simpa using ⟨[], back, rfl⟩
  | case2 c cs hne ih =>
    rw [ih]
    constructor
    · rintro ⟨front, back, rfl⟩
      exact ⟨c :: front, back, rfl⟩
    · rintro ⟨front, back, h⟩
      cases front with
      | nil =>
        cases h
        exact absurd rfl (hne back rfl)
      | cons d front =>
        cases h
        exact ⟨front, back, rfl⟩
  | case3 => simp

/-- **The local part is made of pieces that are not empty**, of characters that may stand there. -/
theorem isLocalPart_iff_pieces :
    isLocalPart cs = true ↔ [] ∉ splitOn '.' cs ∧ ∀ c ∈ cs, isLocalChar c = true := by
  rw [Text.nil_mem_splitOn_iff, ← hasDoubleDot_iff]
  simp only [isLocalPart, Bool.and_eq_true, Bool.not_eq_true', bne_iff_ne, List.all_eq_true,
    List.isEmpty_eq_false_iff, not_or, Bool.not_eq_true, and_assoc, ne_eq]

theorem isLocalPart_iff : isLocalPart cs = true ↔
    ∃ atoms, cs = joinWith '.' atoms ∧ atoms ≠ [] ∧ ∀ a ∈ atoms, IsAtom a := by
  rw [isLocalPart_iff_pieces]
  constructor
  · rintro ⟨hpieces, hchars⟩
    refine ⟨splitOn '.' cs, (Text.joinWith_splitOn '.' cs).symm, Text.splitOn_ne_nil '.' cs,
      fun a ha => ⟨fun hnil => hpieces (hnil ▸ ha), fun c hc => ?_⟩⟩
    obtain ⟨hdot, before, after, rfl, -⟩ := Text.mem_splitOn_iff.1 ha
    have hchar := isLocalChar_iff.1 (hchars c (by simp [hc]))
    exact hchar.resolve_right fun heq => hdot (heq ▸ hc)
  · rintro ⟨atoms, rfl, hne, hatoms⟩
    have hdots : ∀ a ∈ atoms, '.' ∉ a := fun a ha hdot =>
      not_dot_of_char ((hatoms a ha).char '.' hdot) rfl
    rw [Text.splitOn_joinWith hne hdots]
    refine ⟨fun hnil => (hatoms [] hnil).ne_nil rfl, fun c hc => isLocalChar_iff.2 ?_⟩
    rcases Text.mem_joinWith hc with rfl | ⟨a, ha, hc⟩
    · exact .inr rfl
    · exact .inl ((hatoms a ha).char c hc)

/-! ## The domain -/

theorem isLabel_iff : isLabel cs = true ↔ IsLabel cs := by
  simp only [isLabel, Bool.and_eq_true, Bool.not_eq_true', bne_iff_ne, List.all_eq_true,
    List.isEmpty_eq_false_iff, Bool.or_eq_true, beq_iff_eq]
  exact ⟨fun ⟨⟨⟨hne, hhead⟩, hlast⟩, hchar⟩ => ⟨hne, hchar, hhead, hlast⟩,
    fun h => ⟨⟨⟨h.ne_nil, h.head⟩, h.last⟩, h.char⟩⟩

theorem isTopLabel_iff : isTopLabel cs = true ↔ IsTopLabel cs := by
  rw [isTopLabel, Bool.and_eq_true, decide_eq_true_eq, List.all_eq_true]
  exact ⟨fun ⟨htwo, hchar⟩ => ⟨hchar, htwo⟩, fun h => ⟨h.two_le, h.char⟩⟩

theorem isDomain_iff : isDomain cs = true ↔
    ∃ labels, cs = joinWith '.' labels ∧ 2 ≤ labels.length ∧ (∀ l ∈ labels, IsLabel l) ∧
      ∀ l ∈ labels.getLast?, IsTopLabel l := by
  have hlast : ∀ labels : List (List Char), labels ≠ [] →
      (labels.getLast?.any isTopLabel = true ↔ ∀ l ∈ labels.getLast?, IsTopLabel l) := by
    intro labels hne
    obtain ⟨l, hl⟩ := Option.ne_none_iff_exists'.1 (mt List.getLast?_eq_none_iff.1 hne)
    simp [hl, isTopLabel_iff]
  simp only [isDomain, Bool.and_eq_true, decide_eq_true_eq, List.all_eq_true, isLabel_iff,
    hlast _ (Text.splitOn_ne_nil '.' cs)]
  constructor
  · rintro ⟨⟨htwo, hlabels⟩, htop⟩
    exact ⟨splitOn '.' cs, (Text.joinWith_splitOn '.' cs).symm, htwo, hlabels, htop⟩
  · rintro ⟨labels, rfl, htwo, hlabels, htop⟩
    have hne : labels ≠ [] := by
      rintro rfl
      exact absurd htwo (by decide)
    have hdots : ∀ l ∈ labels, '.' ∉ l := fun l hl hdot =>
      absurd ((hlabels l hl).char '.' hdot) (by decide)
    rw [Text.splitOn_joinWith hne hdots]
    exact ⟨⟨htwo, hlabels⟩, htop⟩

/-- A domain holds characters of the local part only. -/
theorem isLocalChar_of_isDomain (h : isDomain cs = true) (hc : c ∈ cs) : isLocalChar c = true := by
  obtain ⟨labels, rfl, -, hlabels, -⟩ := isDomain_iff.1 h
  rcases Text.mem_joinWith hc with rfl | ⟨l, hl, hc⟩
  · decide
  · rcases (hlabels l hl).char c hc with halphanum | rfl
    · exact isLocalChar_iff.2 (.inl (.inl halphanum))
    · decide

/-! ## Addresses -/

/-- **A text is accepted** that is a local part and a domain with an `@` between them. -/
theorem isValid_iff_sides {s : String} : isValid s = true ↔
    ∃ front back, s.toList = front ++ '@' :: back ∧ isLocalPart front = true ∧
      isDomain back = true := by
  have hsides : ∀ {front back : List Char}, isLocalPart front = true → isDomain back = true →
      ∀ c ∈ front ++ back, isBlank c = false ∧ c ≠ '@' := by
    intro front back hfront hback c hc
    rcases List.mem_append.1 hc with hc | hc
    · exact plain_of_isLocalChar ((isLocalPart_iff_pieces.1 hfront).2 c hc)
    · exact plain_of_isLocalChar (isLocalChar_of_isDomain hback hc)
  simp only [isValid, Bool.and_eq_true]
  constructor
  · rintro ⟨-, hsplit⟩
    split at hsplit
    next front back hpieces =>
      obtain ⟨hfront, hback⟩ := (Bool.and_eq_true _ _).mp hsplit
      refine ⟨front, back, ?_, hfront, hback⟩
      rw [← Text.joinWith_splitOn '@' s.toList, hpieces]
      rfl
    · cases hsplit
  · rintro ⟨front, back, hs, hfront, hback⟩
    have hplain := hsides hfront hback
    have hnoAt : '@' ∉ front ∧ '@' ∉ back := by
      rw [← not_or, ← List.mem_append]
      exact fun hat => (hplain '@' hat).2 rfl
    have hblank : s.toList.any isBlank = false := by
      rw [hs, List.any_eq_false]
      intro c hc
      rw [Bool.not_eq_true]
      rcases List.mem_append.1 hc with hc | hc
      · exact (hplain c (List.mem_append_left _ hc)).1
      · rcases List.mem_cons.1 hc with rfl | hc
        · decide
        · exact (hplain c (List.mem_append_right _ hc)).1
    have hpieces : splitOn '@' s.toList = [front, back] := by
      rw [hs, Text.splitOn_append, Text.splitOn_of_not_mem hnoAt.1,
        Text.splitOn_of_not_mem hnoAt.2]
      rfl
    refine ⟨⟨?_, ?_⟩, ?_⟩
    · rw [hs]
      simp
    · rw [hblank]
      rfl
    · rw [hpieces]
      exact (Bool.and_eq_true _ _).mpr ⟨hfront, hback⟩

/-- **The texts that are accepted are the addresses**: atoms joined by dots, an `@`, and at least
two labels joined by dots, the last of which is a top label. -/
theorem isValid_iff_isAddress (s : String) :
    isValid s = true ↔ ∃ atoms labels, IsAddress s.toList atoms labels := by
  rw [isValid_iff_sides]
  constructor
  · rintro ⟨front, back, hs, hfront, hback⟩
    obtain ⟨atoms, rfl, hne, hatoms⟩ := isLocalPart_iff.1 hfront
    obtain ⟨labels, rfl, htwo, hlabels, htop⟩ := isDomain_iff.1 hback
    exact ⟨atoms, labels, hs, hne, hatoms, htwo, hlabels, htop⟩
  · rintro ⟨atoms, labels, h⟩
    exact ⟨_, _, h.form, isLocalPart_iff.2 ⟨atoms, rfl, h.atoms_ne_nil, h.atom⟩,
      isDomain_iff.2 ⟨labels, rfl, h.two_le, h.label, h.top⟩⟩

end Email

end TenantGuard
