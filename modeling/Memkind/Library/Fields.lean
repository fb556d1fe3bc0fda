/-
This file reads lists of named values with two alternating separators.
-/

import Memkind.Library.Tokens

namespace Memkind.Library

variable {α ε σ ι : Type} [DecidableEq α]

/-- The names of a text and their values. A name without a value is the last one. -/
def fields (nameEnd valueEnd : α) (text : List α) : List (List α × Option (List α)) :=
  match _found : (nextToken nameEnd text).1 with
  | none => []
  | some name =>
      let value := nextToken valueEnd (nextToken nameEnd text).2
      (name, value.1) :: fields nameEnd valueEnd value.2
termination_by text.length
decreasing_by exact Nat.lt_of_le_of_lt nextToken_length_le (nextToken_length _found)

/-- The loop that takes a name and its value from the text until no name is left. It returns the
text at which it stops. -/
def readFields (nameEnd valueEnd : α) (step : σ → List α × Option (List α) → Parsed ε σ)
    (text : List α) (state : σ) : Parsed ε (σ × List α) :=
  match _found : (nextToken nameEnd text).1 with
  | none => .accept (state, (nextToken nameEnd text).2)
  | some name =>
      let value := nextToken valueEnd (nextToken nameEnd text).2
      step state (name, value.1) >>= readFields nameEnd valueEnd step value.2
termination_by text.length
decreasing_by exact Nat.lt_of_le_of_lt nextToken_length_le (nextToken_length _found)

/-- The word with the given spelling. -/
def keyword (words : List ι) (spelling : ι → List α) (text : List α) : Option ι :=
  words.find? fun word => spelling word = text

theorem keyword_eq_some_iff {words : List ι} {spelling : ι → List α} {text : List α} {word : ι}
    (complete : ∀ word, word ∈ words) (injective : Function.Injective spelling) :
    keyword words spelling text = some word ↔ spelling word = text := by
  constructor
  · intro found
    simpa using List.find?_some found
  · rintro rfl
    cases found : keyword words spelling (spelling word) with
    | none => exact absurd (by simp) (List.find?_eq_none.mp found word (complete word))
    | some other =>
        have same : spelling other = spelling word := by simpa using List.find?_some found
        rw [injective same]

section Loop

variable {nameEnd valueEnd : α}

theorem fields_of_none {text : List α} (exhausted : (nextToken nameEnd text).1 = none) :
    fields nameEnd valueEnd text = [] := by
  rw [fields]
  split
  · rfl
  · rename_i name found
    rw [exhausted] at found
    cases found

theorem fields_of_some {text name : List α} (found : (nextToken nameEnd text).1 = some name) :
    fields nameEnd valueEnd text =
      (name, (nextToken valueEnd (nextToken nameEnd text).2).1) ::
        fields nameEnd valueEnd (nextToken valueEnd (nextToken nameEnd text).2).2 := by
  rw [fields]
  split
  · rename_i missing
    rw [missing] at found
    cases found
  · rename_i other same
    rw [found] at same
    obtain rfl := Option.some.inj same
    rfl

@[simp] theorem fields_nil : fields nameEnd valueEnd [] = [] := fields_of_none rfl

/-- The loop is a fold over the fields, and it stops at the end of the text. -/
theorem readFields_eq {step : σ → List α × Option (List α) → Parsed ε σ} (text : List α)
    (state : σ) :
    readFields nameEnd valueEnd step text state =
      (fields nameEnd valueEnd text).foldlM step state >>= fun final => .accept (final, []) := by
  fun_induction readFields nameEnd valueEnd step text state with
  | case1 text state exhausted =>
      rw [fields_of_none exhausted, nextToken_rest_of_none exhausted]
      rfl
  | case2 text state name found value ih =>
      rw [fields_of_some found, List.foldlM_cons, bind_assoc]
      congr 1
      funext next
      exact ih next

/-- A field without a value has nothing after it. -/
theorem fields_valueless {text : List α} {before after : List (List α × Option (List α))}
    {name : List α} (split : fields nameEnd valueEnd text = before ++ (name, none) :: after) :
    after = [] := by
  induction before generalizing text with
  | nil =>
      cases found : (nextToken nameEnd text).1 with
      | none =>
          rw [fields_of_none found] at split
          cases split
      | some first =>
          rw [fields_of_some found, List.nil_append] at split
          obtain ⟨same, rfl⟩ := List.cons.inj split
          rw [nextToken_rest_of_none (Prod.mk.inj same).2, fields_nil]
  | cons field before ih =>
      cases found : (nextToken nameEnd text).1 with
      | none =>
          rw [fields_of_none found] at split
          cases split
      | some first =>
          rw [fields_of_some found] at split
          exact ih (List.cons.inj split).2

/-- A field has room in the text with the separator between its name and its value. -/
theorem length_of_mem_fields {text name value : List α}
    (member : (name, some value) ∈ fields nameEnd valueEnd text) :
    value ≠ [] ∧ name.length + value.length < text.length := by
  fun_induction fields nameEnd valueEnd text with
  | case1 text exhausted => cases member
  | case2 text first found rest ih =>
      obtain ⟨-, within, separated⟩ := nextToken_consumes found
      obtain same | later := List.mem_cons.mp member
      · obtain ⟨rfl, valued⟩ := Prod.mk.inj same
        obtain ⟨nonempty, valueWithin, -⟩ := nextToken_consumes valued.symm
        have positive := List.length_pos_iff.mpr nonempty
        have more := separated (List.ne_nil_of_length_pos (by omega))
        exact ⟨nonempty, by omega⟩
      · obtain ⟨nonempty, shorter⟩ := ih later
        have after : rest.2.length ≤ (nextToken nameEnd text).2.length := nextToken_length_le
        exact ⟨nonempty, by omega⟩

/-- The fields of names and values that are written without stray separators. -/
theorem fields_intercalate (pairs : List (List α × List α))
    (names : ∀ pair ∈ pairs, pair.1 ≠ [] ∧ nameEnd ∉ pair.1)
    (values : ∀ pair ∈ pairs, pair.2 ≠ [] ∧ valueEnd ∉ pair.2) :
    fields nameEnd valueEnd
        ([valueEnd].intercalate (pairs.map fun pair => pair.1 ++ nameEnd :: pair.2)) =
      pairs.map fun pair => (pair.1, some pair.2) := by
  induction pairs with
  | nil => simp
  | cons pair others ih =>
      obtain ⟨named, nameFree⟩ := names pair List.mem_cons_self
      obtain ⟨valued, valueFree⟩ := values pair List.mem_cons_self
      cases others with
      | nil =>
          have first : nextToken nameEnd (pair.1 ++ nameEnd :: pair.2) = (some pair.1, pair.2) :=
            nextToken_append named nameFree
          simp only [List.map_cons, List.map_nil, List.intercalate_singleton]
          rw [fields_of_some (by rw [first]), first, nextToken_last valued valueFree, fields_nil]
      | cons next others =>
          have rest := ih
            (fun other member => names other (List.mem_cons_of_mem _ member))
            (fun other member => values other (List.mem_cons_of_mem _ member))
          simp only [List.map_cons, List.intercalate_cons_cons, List.append_assoc,
            List.cons_append, List.nil_append] at rest ⊢
          rw [fields_of_some (by rw [nextToken_append named nameFree]),
            nextToken_append named nameFree, nextToken_append valued valueFree, rest]

end Loop

end Memkind.Library
