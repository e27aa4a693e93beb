import Mathlib.Tactic.Ring
import TenantGuard.Proofs.Json.Record
import TenantGuard.Proofs.Json.Written

/-!
# Written objects are read back

A record of flat fields is read back from an object that was written with its values, whatever other
members the object has.

* `Shape.Takes`: a shape reads a value from its token;
* `readMembers_memberTokens`: the members of the object are read one after another, and those of the
  record's fields are collected;
* `read_object`: the record holds the values of the object, and what stands for the fields that the
  object leaves out.
-/

namespace TenantGuard.Json

/-- The fields of a record. -/
def Shape.fields : Shape → List (String × Shape)
  | .record fields => fields
  | _ => []

variable {s : Shape} {v absent : Json} {n : Nat} {ts : List Token} {name : String}
  {fields : List (String × Shape)} {found ms : List (String × Json)}

theorem plain_token (hv : v.IsSingle) (ts : List Token) : Plain (v.token :: ts) v ts := by
  cases v with
  | null => exact .null ts
  | boolean b => exact .boolean b ts
  | number k => exact .number (some k) ts
  | text t => exact .text t ts
  | array items => exact hv.elim
  | object members => exact hv.elim

/-! ## Values -/

/-- **A shape takes a value** where it finds its token. -/
def Shape.Takes (s : Shape) (v : Json) : Prop :=
  ∀ n ts, s.size ≤ n → readShape n s (v.token :: ts) = .ok (v, ts)

theorem takes_text (t : String) : Shape.text.Takes (.text t) := by
  intro n ts hn
  obtain ⟨m, rfl⟩ := Nat.exists_eq_succ_of_ne_zero (Nat.pos_iff_ne_zero.1 hn)
  rw [token, readShape]

theorem takes_boolean (b : Bool) : Shape.boolean.Takes (.boolean b) := by
  intro n ts hn
  obtain ⟨m, rfl⟩ := Nat.exists_eq_succ_of_ne_zero (Nat.pos_iff_ne_zero.1 hn)
  rw [token, readShape]

theorem takes_integer {k : Number} {i least greatest : Int} (hi : k.toInt? = some i)
    (hbounds : least ≤ i ∧ i ≤ greatest) :
    (Shape.integer least greatest).Takes (.number k) := by
  intro n ts hn
  obtain ⟨m, rfl⟩ := Nat.exists_eq_succ_of_ne_zero (Nat.pos_iff_ne_zero.1 hn)
  rw [token, readShape, hi]
  exact if_pos hbounds

theorem takes_plain (hv : v.IsSingle) : Shape.plain.Takes v := by
  intro n ts hn
  obtain ⟨m, rfl⟩ := Nat.exists_eq_succ_of_ne_zero (Nat.pos_iff_ne_zero.1 hn)
  cases v with
  | null => rfl
  | boolean b => rfl
  | number k => rfl
  | text t => rfl
  | array items => exact hv.elim
  | object members => exact hv.elim

theorem Shape.Takes.optional (h : s.Takes v) (hv : v.token ≠ .null) :
    (Shape.optional s).Takes v := by
  intro n ts hn
  rw [Shape.size] at hn
  obtain ⟨m, rfl⟩ := Nat.exists_eq_succ_of_ne_zero (show n ≠ 0 by omega)
  rw [readShape]
  · exact h m ts (Nat.le_of_succ_le_succ hn)
  · intro ts' hts
    exact hv (List.cons.inj hts).1

theorem Shape.Takes.defaulting (h : s.Takes v) : (Shape.defaulting s absent).Takes v := by
  intro n ts hn
  rw [Shape.size] at hn
  obtain ⟨m, rfl⟩ := Nat.exists_eq_succ_of_ne_zero (show n ≠ 0 by omega)
  rw [readShape]
  exact h m ts (Nat.le_of_succ_le_succ hn)

/-! ## Members -/

theorem size_le_fieldSizes (h : (name, s) ∈ fields) : s.size ≤ fieldSizes fields := by
  induction fields with
  | nil => cases h
  | cons f fields ih =>
    obtain ⟨name', s'⟩ := f
    rw [fieldSizes]
    rcases List.mem_cons.1 h with heq | hmem
    · cases heq
      omega
    · have := ih hmem
      omega

/-- What is found behind a member: its value, if it is one of the record's fields. -/
def collect (fields : List (String × Shape)) (found : List (String × Json))
    (m : String × Json) : List (String × Json) :=
  if (fields.lookup m.1).isSome then m :: found else found

/-- **A member that a record can take.** -/
structure Fits (fields : List (String × Shape)) (m : String × Json) : Prop where
  single : m.2.IsSingle
  takes : ∀ s, fields.lookup m.1 = some s → s.Takes m.2

theorem fits_of_field (hv : v.IsSingle) (hs : fields.lookup name = some s) (h : s.Takes v) :
    Fits fields (name, v) :=
  ⟨hv, fun s' hs' => by
    cases hs.symm.trans hs'
    exact h⟩

theorem fits_of_no_field (hv : v.IsSingle) (hs : fields.lookup name = none) :
    Fits fields (name, v) :=
  ⟨hv, fun s' hs' => by cases hs.symm.trans hs'⟩

/-- **A member is read** and the others behind it. -/
theorem readMembers_cons (hfits : Fits fields (name, v)) (hnew : found.lookup name = none)
    (hn : fieldSizes fields ≤ n) (ts : List Token) :
    readMembers (n + 1) fields found (.text (some name) :: .colon :: v.token :: ts) =
      match ts with
      | .comma :: ts => readMembers n fields (collect fields found (name, v)) ts
      | .endObject :: ts => do return (← fillRecord fields (collect fields found (name, v)), ts)
      | _ => .error .malformed := by
  rw [readMembers]
  cases hfield : fields.lookup name with
  | none =>
    have hskip : skipValue (v.token :: ts) = some ts := (plain_token hfits.single ts).skipValue
    have hcollect : collect fields found (name, v) = found := by
      simp [collect, hfield]
    simp only [hskip, hcollect]
    rfl
  | some s =>
    have hsize := size_le_fieldSizes (mem_of_lookup hfield)
    have hread := hfits.takes s hfield n ts (Nat.le_trans hsize hn)
    have hcollect : collect fields found (name, v) = (name, v) :: found := by
      simp [collect, hfield]
    simp only [hnew, hread, hcollect]
    rfl

theorem readMembers_memberTokens (hms : ∀ m ∈ (name, v) :: ms, Fits fields m)
    (hdistinct : (((name, v) :: ms).map Prod.fst).Nodup)
    (hnew : ∀ m ∈ (name, v) :: ms, found.lookup m.1 = none)
    (hn : fieldSizes fields + ms.length < n) :
    readMembers n fields found (.text (some name) :: .colon :: v.token :: memberTokens ms) =
      do return (← fillRecord fields (((name, v) :: ms).foldl (collect fields) found), []) := by
  induction ms generalizing name v found n with
  | nil =>
    obtain ⟨m, rfl⟩ := Nat.exists_eq_succ_of_ne_zero (show n ≠ 0 by omega)
    rw [readMembers_cons (hms _ List.mem_cons_self) (hnew _ List.mem_cons_self)
      (by rw [List.length_nil] at hn; omega)]
    rfl
  | cons next ms ih =>
    obtain ⟨name', v'⟩ := next
    obtain ⟨m, rfl⟩ := Nat.exists_eq_succ_of_ne_zero (show n ≠ 0 by omega)
    rw [List.length_cons] at hn
    rw [readMembers_cons (hms _ List.mem_cons_self) (hnew _ List.mem_cons_self) (by omega),
      memberTokens]
    rw [List.map_cons, List.nodup_cons] at hdistinct
    refine ih (fun m hm => hms m (List.mem_cons_of_mem _ hm)) hdistinct.2 (fun m hm => ?_)
      (by omega)
    have hne : m.1 ≠ name := by
      intro heq
      have hmem := List.mem_map_of_mem (f := Prod.fst) hm
      rw [heq] at hmem
      exact hdistinct.1 hmem
    have hold : found.lookup m.1 = none := hnew m (List.mem_cons_of_mem _ hm)
    unfold collect
    split
    · rw [List.lookup_cons, beq_false_of_ne hne]
      exact hold
    · exact hold

/-- **What is collected** for a field is what the object names it with. -/
theorem lookup_collected (hfield : (fields.lookup name).isSome = true)
    (hdistinct : (ms.map Prod.fst).Nodup) :
    (ms.foldl (collect fields) found).lookup name = (ms.lookup name).or (found.lookup name) := by
  induction ms generalizing found with
  | nil => rfl
  | cons m ms ih =>
    obtain ⟨name', w⟩ := m
    rw [List.map_cons, List.nodup_cons] at hdistinct
    rw [List.foldl_cons, ih hdistinct.2]
    by_cases hname : name = name'
    · subst hname
      have hlast : ms.lookup name = none := by
        cases hlookup : ms.lookup name with
        | none => rfl
        | some u => exact absurd (List.mem_map_of_mem (mem_of_lookup hlookup)) hdistinct.1
      rw [hlast, collect, if_pos hfield, List.lookup_cons_self, List.lookup_cons_self]
      rfl
    · have hother : (collect fields found (name', w)).lookup name = found.lookup name := by
        unfold collect
        split
        · rw [List.lookup_cons, beq_false_of_ne hname]
        · rfl
      rw [hother, List.lookup_cons, beq_false_of_ne hname]

/-! ## Records -/

theorem exists_mapM {α β ε : Type} {f : α → Except ε β} :
    ∀ {xs : List α}, (∀ x ∈ xs, ∃ y, f x = .ok y) → ∃ ys, xs.mapM f = .ok ys
  | [], _ => ⟨[], rfl⟩
  | x :: xs, h => by
    obtain ⟨y, hy⟩ := h x List.mem_cons_self
    obtain ⟨ys, hys⟩ := exists_mapM fun x' hx => h x' (List.mem_cons_of_mem x hx)
    exact ⟨y :: ys, (mapM_eq_ok_iff _).2 (.cons hy ((mapM_eq_ok_iff _).1 hys))⟩

/-- A record is filled if something was found for each field, or stands for it. -/
theorem exists_fillRecord
    (h : ∀ f ∈ fields, ∃ w, (found.lookup f.1).or f.2.absent? = some w) :
    ∃ j, fillRecord fields found = .ok j := by
  suffices hmembers : ∃ members, fields.mapM _ = Except.ok members by
    obtain ⟨members, hmembers⟩ := hmembers
    exact ⟨.object members, bind_eq_ok.2 ⟨members, hmembers, rfl⟩⟩
  refine exists_mapM fun f hf => ?_
  obtain ⟨name, s⟩ := f
  obtain ⟨w, hw⟩ := h _ hf
  cases hfound : found.lookup name with
  | some v => exact ⟨(name, v), by simp [hfound]⟩
  | none =>
    simp only [hfound, Option.none_or] at hw
    cases s with
    | optional s => exact ⟨(name, .null), by simp [hfound]⟩
    | defaulting s absent => exact ⟨(name, absent), by simp [hfound]⟩
    | _ => cases hw

theorem le_length_memberTokens (ms : List (String × Json)) :
    ms.length ≤ (memberTokens ms).length := by
  induction ms with
  | nil => exact Nat.zero_le _
  | cons m ms ih =>
    obtain ⟨name, v⟩ := m
    rw [memberTokens, List.length_cons, List.length_cons, List.length_cons, List.length_cons,
      List.length_cons]
    omega

/-- The members are read in as many steps as the tokens allow. -/
theorem readTokens_object (hms : ∀ m ∈ (name, v) :: ms, Fits fields m)
    (hdistinct : (((name, v) :: ms).map Prod.fst).Nodup) :
    (Shape.record fields).readTokens
        (.beginObject :: .text (some name) :: .colon :: v.token :: memberTokens ms) =
      do return (← fillRecord fields (((name, v) :: ms).foldl (collect fields) []), []) := by
  have hlength := le_length_memberTokens ms
  rw [Shape.readTokens, Shape.size]
  generalize htokens : List.length _ = l
  have hl : ms.length ≤ l := by
    rw [← htokens, List.length_cons, List.length_cons, List.length_cons, List.length_cons]
    omega
  obtain ⟨k, hk, hsteps⟩ : ∃ k, 2 * (l + 1) * (fieldSizes fields + 1 + 1) = k + 1 ∧
      fieldSizes fields + ms.length < k := by
    have hproduct : 2 * (l + 1) * (fieldSizes fields + 1 + 1) =
        2 * (l * fieldSizes fields) + 4 * l + 2 * fieldSizes fields + 4 := by
      ring
    exact ⟨2 * (l + 1) * (fieldSizes fields + 1 + 1) - 1, by omega, by omega⟩
  rw [hk, readShape]
  · exact readMembers_memberTokens hms hdistinct (fun _ _ => rfl) hsteps
  · intro ts hts
    cases hts

/-- **An object that was written is read back.**  The record holds what the object names its fields
with, and what stands for those that the object leaves out. -/
theorem read_object (hs : s = .record fields) (hfields : (fields.map Prod.fst).Nodup)
    (hne : ms ≠ []) (hdistinct : (ms.map Prod.fst).Nodup) (hms : ∀ m ∈ ms, Fits fields m)
    (hneeded : ∀ f ∈ fields, ∃ w, (ms.lookup f.1).or f.2.absent? = some w) :
    ∃ j, s.readWhole? (Text.Utf8.bytes (render (.object ms))) = some j ∧
      ∀ name s, fields.lookup name = some s →
        j.member? name = (ms.lookup name).or s.absent? := by
  subst hs
  obtain ⟨⟨first, v⟩, rest, rfl⟩ := List.exists_cons_of_ne_nil hne
  have hfound : ∀ name s, fields.lookup name = some s →
      (((first, v) :: rest).foldl (collect fields) []).lookup name =
        ((first, v) :: rest).lookup name := by
    intro name s hs
    rw [lookup_collected (by rw [hs]; rfl) hdistinct]
    exact Option.or_none
  obtain ⟨j, hj⟩ : ∃ j, fillRecord fields (((first, v) :: rest).foldl (collect fields) []) =
      .ok j := by
    refine exists_fillRecord fun f hf => ?_
    rw [hfound f.1 f.2 (lookup_of_mem hfields hf)]
    exact hneeded f hf
  refine ⟨j, ?_, fun name s hs => ?_⟩
  · have hv : v.IsSingle := (hms _ List.mem_cons_self).single
    have hrest : ∀ m ∈ rest, m.2.IsSingle := fun m hm => (hms m (List.mem_cons_of_mem _ hm)).single
    rw [Shape.readWhole?, scan_object hv hrest, readTokens_object hms hdistinct, hj]
    rfl
  · obtain ⟨w, hw, hvalue⟩ := member?_of_fillRecord hj hfields hs
    rw [hw, ← hvalue, hfound name s hs]

/-! ## Members that are left out -/

theorem mem_present {rows : List (String × Option Json)} {m : String × Json} :
    m ∈ present rows ↔ (m.1, some m.2) ∈ rows := by
  rw [present, List.mem_filterMap]
  constructor
  · rintro ⟨⟨name, o⟩, hmem, ho⟩
    obtain ⟨v, rfl, rfl⟩ := Option.map_eq_some_iff.1 ho
    exact hmem
  · intro hmem
    exact ⟨_, hmem, rfl⟩

theorem names_present (rows : List (String × Option Json)) :
    ((present rows).map Prod.fst).Sublist (rows.map Prod.fst) := by
  induction rows with
  | nil => exact List.Sublist.refl _
  | cons row rows ih =>
    obtain ⟨name, _ | v⟩ := row
    · exact ih.cons name
    · exact ih.cons_cons name

/-- **What is present is looked up** as the value that it has. -/
theorem lookup_present {rows : List (String × Option Json)} (h : (rows.map Prod.fst).Nodup)
    (name : String) : (present rows).lookup name = (rows.lookup name).join := by
  refine Option.ext fun v => ?_
  rw [lookup_eq_some_iff_mem (h.sublist (names_present rows)), mem_present,
    Option.join_eq_some_iff, lookup_eq_some_iff_mem h]

end TenantGuard.Json
