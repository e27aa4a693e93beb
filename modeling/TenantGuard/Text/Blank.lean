/-!
# Blanks: the characters that trimming removes

A blank is a character with the Unicode property `White_Space`.  The class is wider than core's
`Char.isWhitespace`, which knows four ASCII characters.

`trimStart` and `trimEnd` drop blanks at one end of a text and nothing else, and what they leave has
no blank at that end: `trimStart_spec`, `trimEnd_spec`.  `IsCore` says what is left of a text
without the blanks at its ends, and `trim_eq_iff` that `trim` finds it.
-/

namespace TenantGuard.Text

/-- **The blanks.**  The 25 characters with the property `White_Space`. -/
def isBlank (c : Char) : Bool :=
  let n := c.toNat
  (9 ≤ n && n ≤ 13) || n == 0x20 || n == 0x85 || n == 0xA0 || n == 0x1680 ||
  (0x2000 ≤ n && n ≤ 0x200A) || n == 0x2028 || n == 0x2029 || n == 0x202F || n == 0x205F ||
  n == 0x3000

/-- The text without the blanks it starts with. -/
def trimStart (cs : List Char) : List Char := cs.dropWhile isBlank

/-- The text without the blanks it ends with. -/
def trimEnd (cs : List Char) : List Char := (cs.reverse.dropWhile isBlank).reverse

/-- The text without the blanks at either end. -/
def trim (cs : List Char) : List Char := trimEnd (trimStart cs)

/-- `trim` on strings. -/
def trimmed (s : String) : String := String.ofList (trim s.toList)

/-- Whether a text holds nothing but blanks. -/
def allBlank (s : String) : Bool := s.toList.all isBlank

/-- What `trimStart` drops is a run of blanks, and the rest does not start with one. -/
theorem trimStart_spec (cs : List Char) :
    cs.takeWhile isBlank ++ trimStart cs = cs ∧
      ∀ c ∈ (trimStart cs).head?, isBlank c = false := by
  refine ⟨List.takeWhile_append_dropWhile, fun c hc => ?_⟩
  have h := List.head?_dropWhile_not isBlank cs
  rw [trimStart] at hc
  rw [Option.mem_def.1 hc] at h
  simpa using h

/-- What `trimEnd` drops is a run of blanks, and the rest does not end with one. -/
theorem trimEnd_spec (cs : List Char) :
    (∃ bs, (∀ b ∈ bs, isBlank b = true) ∧ trimEnd cs ++ bs = cs) ∧
      ∀ c ∈ (trimEnd cs).getLast?, isBlank c = false := by
  refine ⟨⟨(cs.reverse.takeWhile isBlank).reverse, fun b hb => ?_, ?_⟩, fun c hc => ?_⟩
  · exact List.all_eq_true.1 List.all_takeWhile b (List.mem_reverse.1 hb)
  · rw [trimEnd, ← List.reverse_append, List.takeWhile_append_dropWhile, List.reverse_reverse]
  · rw [trimEnd, List.getLast?_reverse] at hc
    exact (trimStart_spec cs.reverse).2 c hc

theorem dropWhile_eq_self {p : Char → Bool} {cs : List Char} (h : ∀ c ∈ cs.head?, p c = false) :
    cs.dropWhile p = cs := by
  cases cs with
  | nil => rfl
  | cons c cs => simp [h c (by simp)]

theorem dropWhile_exact {p : Char → Bool} {cs rest : List Char} (hcs : ∀ c ∈ cs, p c = true)
    (hrest : ∀ c ∈ rest.head?, p c = false) : (cs ++ rest).dropWhile p = rest := by
  rw [List.dropWhile_append_of_pos hcs]
  exact dropWhile_eq_self hrest

theorem trimStart_blanks {bs rest : List Char} (hbs : ∀ b ∈ bs, isBlank b = true)
    (hrest : ∀ c ∈ rest.head?, isBlank c = false) : trimStart (bs ++ rest) = rest :=
  dropWhile_exact hbs hrest

theorem trimEnd_blanks {cs bs : List Char} (hcs : ∀ c ∈ cs.getLast?, isBlank c = false)
    (hbs : ∀ b ∈ bs, isBlank b = true) : trimEnd (cs ++ bs) = cs := by
  have hback : (bs.reverse ++ cs.reverse).dropWhile isBlank = cs.reverse :=
    dropWhile_exact (fun c hc => hbs c (List.mem_reverse.1 hc)) (by rwa [List.head?_reverse])
  rw [trimEnd, List.reverse_append, hback, List.reverse_reverse]

/-- **What stands between the blanks** at the ends of a text. -/
def IsCore (cs word : List Char) : Prop :=
  ∃ left right, cs = left ++ (word ++ right) ∧ (∀ c ∈ left ++ right, isBlank c = true) ∧
    (∀ c ∈ word.head?, isBlank c = false) ∧ ∀ c ∈ word.getLast?, isBlank c = false

theorem trim_eq_iff {cs word : List Char} : trim cs = word ↔ IsCore cs word := by
  constructor
  · rintro rfl
    obtain ⟨hstart, hhead⟩ := trimStart_spec cs
    obtain ⟨⟨right, hright, hend⟩, hlast⟩ := trimEnd_spec (trimStart cs)
    refine ⟨cs.takeWhile isBlank, right, ?_, fun c hc => ?_, fun c hc => hhead c ?_, hlast⟩
    · rw [trim, hend, hstart]
    · exact (List.mem_append.1 hc).elim (List.all_eq_true.1 List.all_takeWhile c) (hright c)
    · rw [← hend, List.head?_append]
      exact Option.mem_def.2 (congrArg (·.or right.head?) (Option.mem_def.1 hc))
  · rintro ⟨left, right, rfl, hblanks, hhead, hlast⟩
    obtain ⟨hleft, hright⟩ := List.forall_mem_append.1 hblanks
    cases word with
    | nil =>
      have hall : trimStart (left ++ right ++ []) = [] := trimStart_blanks hblanks nofun
      rw [List.append_nil] at hall
      rw [List.nil_append, trim, hall]
      rfl
    | cons c word =>
      have hstart : trimStart (left ++ (c :: word ++ right)) = c :: word ++ right :=
        trimStart_blanks hleft hhead
      rw [trim, hstart]
      exact trimEnd_blanks hlast hright

theorem trim_of_ends {cs : List Char} (hhead : ∀ c ∈ cs.head?, isBlank c = false)
    (hlast : ∀ c ∈ cs.getLast?, isBlank c = false) : trim cs = cs :=
  trim_eq_iff.2 ⟨[], [], (List.append_nil cs).symm, nofun, hhead, hlast⟩

/-- A text without blanks at its ends is left alone. -/
theorem trim_eq_self {a b : Char} {cs mid : List Char} (h : cs = a :: (mid ++ [b]))
    (ha : isBlank a = false) (hb : isBlank b = false) : trim cs = cs := by
  have hlast : cs.getLast? = some b := by rw [h, ← List.cons_append, List.getLast?_concat]
  refine trim_of_ends (by simpa [h] using ha) fun c hc => ?_
  rw [hlast] at hc
  cases hc
  exact hb

/-- Trimming twice is trimming once. -/
theorem trim_trim (cs : List Char) : trim (trim cs) = trim cs := by
  obtain ⟨-, -, -, -, hhead, hlast⟩ := trim_eq_iff.1 (Eq.refl (trim cs))
  exact trim_of_ends hhead hlast

theorem trimmed_trimmed (s : String) : trimmed (trimmed s) = trimmed s := by
  simp [trimmed, trim_trim]

end TenantGuard.Text
