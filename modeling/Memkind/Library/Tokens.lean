/-
This file splits texts at separators as the tokenizer of C does.
-/

import Mathlib.Data.List.TakeWhile
import Memkind.Library.Parsed

namespace Memkind.Library

variable {α : Type} [DecidableEq α]

/-- The first token of a text and the text after it. The separators in front of the token and the
separator that ends it are dropped. -/
def nextToken (separator : α) (text : List α) : Option (List α) × List α :=
  match text.dropWhile (· = separator) with
  | [] => (none, [])
  | first :: rest =>
      (some ((first :: rest).takeWhile (· ≠ separator)),
        ((first :: rest).dropWhile (· ≠ separator)).tail)

/-- All the tokens of a text. -/
def tokens (separator : α) (text : List α) : List (List α) :=
  (text.splitOn separator).filter (· ≠ [])

/-- A loop that handles one token in each of its iterations. The tokens can run out before. -/
def tokenLoop {ε σ : Type} (separator : α) (step : σ → Option (List α) → Parsed ε σ) :
    (remaining : Nat) → (token : Option (List α) × List α) → (state : σ) →
      Parsed ε (σ × Option (List α) × List α)
  | 0, token, state => .accept (state, token)
  | remaining + 1, token, state =>
      step state token.1 >>= tokenLoop separator step remaining (nextToken separator token.2)

section Kept

variable {β : Type*} {value : β} {items : List β} [DecidablePred (· ≠ value)]

theorem decide_ne_of_not_mem (free : value ∉ items) :
    ∀ item ∈ items, decide (item ≠ value) = true := by
  intro item member
  rw [decide_eq_true_iff]
  rintro rfl
  exact free member

theorem filter_ne_eq_self (free : value ∉ items) : items.filter (· ≠ value) = items :=
  List.filter_eq_self.mpr (decide_ne_of_not_mem free)

end Kept

section Token

variable {separator : α} {token text rest : List α}

@[simp] theorem nextToken_nil : nextToken separator [] = (none, []) := rfl

@[simp] theorem nextToken_separator :
    nextToken separator (separator :: text) = nextToken separator text := by
  simp [nextToken]

/-- A token is followed by a separator or by the end of the text. -/
theorem nextToken_token {tail : List α} (nonempty : token ≠ []) (free : separator ∉ token)
    (ended : ∀ item ∈ tail.head?, item = separator) :
    nextToken separator (token ++ tail) = (some token, tail.tail) := by
  have inside := decide_ne_of_not_mem free
  have stops : tail.takeWhile (· ≠ separator) = [] ∧ tail.dropWhile (· ≠ separator) = tail := by
    cases tail with
    | nil => exact ⟨rfl, rfl⟩
    | cons first others => simp [ended first rfl]
  have started : (token ++ tail).dropWhile (· = separator) = token ++ tail := by
    obtain ⟨first, others, rfl⟩ := List.exists_cons_of_ne_nil nonempty
    exact List.dropWhile_cons_of_neg (by simpa using inside first List.mem_cons_self)
  obtain ⟨first, others, shape⟩ := List.exists_cons_of_ne_nil
    (List.append_ne_nil_of_left_ne_nil nonempty tail)
  rw [nextToken, started, shape]
  change (some (List.takeWhile _ (first :: others)), (List.dropWhile _ (first :: others)).tail) = _
  rw [← shape, List.takeWhile_append_of_pos inside, List.dropWhile_append_of_pos inside, stops.1,
    stops.2, List.append_nil]

theorem nextToken_append (nonempty : token ≠ []) (free : separator ∉ token) :
    nextToken separator (token ++ separator :: rest) = (some token, rest) :=
  nextToken_token nonempty free (by simp)

theorem nextToken_last (nonempty : token ≠ []) (free : separator ∉ token) :
    nextToken separator token = (some token, []) := by
  have ended : ∀ item ∈ ([] : List α).head?, item = separator := nofun
  rw [← List.append_nil token, nextToken_token nonempty free ended, List.append_nil]
  rfl

end Token

/-- A text is empty, starts with a separator, is one token, or starts with a token that a separator
ends. -/
@[elab_as_elim]
theorem tokenInduction (separator : α) {motive : List α → Prop} (nil : motive [])
    (skip : ∀ text, motive text → motive (separator :: text))
    (last : ∀ token, token ≠ [] → separator ∉ token → motive token)
    (more : ∀ token rest, token ≠ [] → separator ∉ token → motive rest →
      motive (token ++ separator :: rest))
    (text : List α) : motive text := by
  induction length : text.length using Nat.strongRecOn generalizing text with
  | ind size ih =>
      cases text with
      | nil => exact nil
      | cons first others =>
          by_cases same : first = separator
          · subst same
            apply skip
            exact ih others.length (by rw [← length]; exact Nat.lt_succ_self _)
              others rfl
          · by_cases ends : separator ∈ others
            · obtain ⟨front, rest, rfl, free⟩ := List.eq_append_cons_of_mem ends
              apply more (first :: front) rest (List.cons_ne_nil _ _)
              · rw [List.mem_cons]
                rintro (rfl | member)
                · exact same rfl
                · exact free member
              · apply ih rest.length _ rest rfl
                rw [← length, List.length_cons, List.length_append, List.length_cons]
                omega
            · apply last _ (List.cons_ne_nil _ _)
              rw [List.mem_cons]
              rintro (rfl | member)
              · exact same rfl
              · exact ends member

section Text

variable {separator : α} {text token rest : List α}

/-- The tokens of a text are its first token and the tokens of the text after it. -/
theorem tokens_eq : tokens separator text =
    match nextToken separator text with
    | (none, _) => []
    | (some token, rest) => token :: tokens separator rest := by
  induction text using tokenInduction separator with
  | nil => simp [tokens]
  | skip text ih =>
      rw [nextToken_separator, ← ih]
      simp [tokens, List.splitOn_cons_eq_if_modifyHead]
  | last token nonempty free =>
      rw [nextToken_last nonempty free, tokens, List.splitOn_eq_singleton free]
      simp [tokens, nonempty]
  | more token rest nonempty free _ =>
      rw [nextToken_append nonempty free, tokens, List.splitOn_append_cons_self_of_not_mem free]
      simp [tokens, nonempty]

/-- A text is its first token and the text after it, unless it starts with a separator or ends
with the token. -/
theorem eq_append_of_nextToken (found : nextToken separator text = (some token, rest))
    (started : text.head? ≠ some separator) (more : rest ≠ []) :
    text = token ++ separator :: rest := by
  induction text using tokenInduction separator with
  | nil => cases found
  | skip text _ => exact absurd rfl started
  | last other nonempty free =>
      rw [nextToken_last nonempty free] at found
      exact absurd (Prod.mk.inj found).2.symm more
  | more other others nonempty free _ =>
      rw [nextToken_append nonempty free] at found
      obtain ⟨same, rfl⟩ := Prod.mk.inj found
      rw [Option.some.inj same]

theorem nextToken_rest_of_none (exhausted : (nextToken separator text).1 = none) :
    (nextToken separator text).2 = [] := by
  unfold nextToken at exhausted ⊢
  split
  · rfl
  · rename_i first others split
    rw [split] at exhausted
    cases exhausted

/-- A token is not empty, and it has room in the text with what comes after it and, if anything does,
with the separator between them. -/
theorem nextToken_consumes (found : (nextToken separator text).1 = some token) :
    token ≠ [] ∧ token.length + (nextToken separator text).2.length ≤ text.length ∧
      ((nextToken separator text).2 ≠ [] →
        token.length + (nextToken separator text).2.length < text.length) := by
  induction text using tokenInduction separator with
  | nil => cases found
  | skip text ih =>
      rw [nextToken_separator] at found ⊢
      obtain ⟨nonempty, within, -⟩ := ih found
      rw [List.length_cons]
      exact ⟨nonempty, by omega, fun _ => by omega⟩
  | last other nonempty free =>
      rw [nextToken_last nonempty free] at found ⊢
      obtain rfl := Option.some.inj found
      exact ⟨nonempty, Nat.le_refl _, fun more => absurd rfl more⟩
  | more other others nonempty free _ =>
      rw [nextToken_append nonempty free] at found ⊢
      obtain rfl := Option.some.inj found
      rw [List.length_append, List.length_cons]
      dsimp only
      exact ⟨nonempty, by omega, fun _ => by omega⟩

/-- The text after a token is shorter. -/
theorem nextToken_length (found : (nextToken separator text).1 = some token) :
    (nextToken separator text).2.length < text.length := by
  obtain ⟨nonempty, within, -⟩ := nextToken_consumes found
  have positive := List.length_pos_iff.mpr nonempty
  omega

theorem nextToken_length_le : (nextToken separator text).2.length ≤ text.length := by
  cases found : (nextToken separator text).1 with
  | none =>
      rw [nextToken_rest_of_none found]
      exact Nat.zero_le _
  | some token => exact Nat.le_of_lt (nextToken_length found)

theorem length_splitOn : (text.splitOn separator).length = text.count separator + 1 := by
  induction text with
  | nil => simp
  | cons first others ih =>
      rw [List.splitOn_cons_eq_if_modifyHead, List.count_cons]
      split
      · rw [List.length_cons, ih]
      · rw [List.length_modifyHead, ih, Nat.add_zero]

theorem not_mem_of_mem_splitOn (member : token ∈ text.splitOn separator) : separator ∉ token := by
  induction text generalizing token with
  | nil =>
      rw [List.splitOn_nil, List.mem_singleton] at member
      rw [member]
      exact List.not_mem_nil
  | cons first others ih =>
      rw [List.splitOn_cons_eq_if_modifyHead] at member
      split at member
      · obtain rfl | member := List.mem_cons.mp member
        · exact List.not_mem_nil
        · exact ih member
      · rename_i different
        cases pieces : others.splitOn separator with
        | nil => exact absurd pieces (List.splitOn_ne_nil _ _)
        | cons piece rest =>
            rw [pieces, List.modifyHead_cons, List.mem_cons] at member
            rw [pieces] at ih
            obtain rfl | member := member
            · rw [List.mem_cons]
              rintro (rfl | inside)
              · exact different (by simp)
              · exact ih List.mem_cons_self inside
            · exact ih (List.mem_cons_of_mem _ member)

omit [DecidableEq α] in
theorem not_mem_intercalate {item : α} {pieces : List (List α)} (different : item ≠ separator)
    (free : ∀ piece ∈ pieces, item ∉ piece) : item ∉ [separator].intercalate pieces := by
  induction pieces with
  | nil => simp
  | cons piece others ih =>
      have rest := ih fun other member => free other (List.mem_cons_of_mem _ member)
      have first := free piece List.mem_cons_self
      cases others with
      | nil => simpa using first
      | cons next others =>
          rw [List.intercalate_cons_cons, List.mem_append, List.mem_append, List.mem_singleton]
          rintro ((inside | same) | later)
          · exact first inside
          · exact different same
          · exact rest later

omit [DecidableEq α] in
theorem mem_intercalate_of_mem {item : α} {piece : List α} {pieces : List (List α)}
    (member : piece ∈ pieces) (inside : item ∈ piece) : item ∈ [separator].intercalate pieces := by
  induction pieces with
  | nil => cases member
  | cons first others ih =>
      cases others with
      | nil =>
          obtain rfl := List.mem_singleton.mp member
          simpa using inside
      | cons next others =>
          rw [List.intercalate_cons_cons, List.mem_append, List.mem_append]
          obtain rfl | later := List.mem_cons.mp member
          · exact .inl (.inl inside)
          · exact .inr (ih later)

/-- The tokens before a separator and those after it. -/
theorem tokens_append_separator (before after : List α) :
    tokens separator (before ++ separator :: after) =
      tokens separator before ++ tokens separator after := by
  rw [tokens, tokens, tokens, List.splitOn, List.splitOnP_append_cons before after (by simp),
    List.filter_append]
  rfl

theorem tokens_of_free (nonempty : token ≠ []) (free : separator ∉ token) :
    tokens separator token = [token] := by
  rw [tokens, List.splitOn_eq_singleton free]
  simp [nonempty]

theorem ne_nil_of_mem_tokens (member : token ∈ tokens separator text) : token ≠ [] :=
  of_decide_eq_true (List.mem_filter.mp member).2

/-- The tokens make up the text without its separators. -/
theorem flatten_tokens : (tokens separator text).flatten = text.filter (· ≠ separator) := by
  induction text using tokenInduction separator with
  | nil => rfl
  | skip text ih =>
      rw [← List.nil_append (separator :: text), tokens_append_separator, List.flatten_append,
        ih]
      simp [tokens]
  | last word nonempty free =>
      rw [tokens_of_free nonempty free, filter_ne_eq_self free, List.flatten_singleton]
  | more word rest nonempty free ih =>
      rw [tokens_append_separator, List.flatten_append, ih, List.filter_append,
        tokens_of_free nonempty free, filter_ne_eq_self free, List.flatten_singleton]
      simp

omit [DecidableEq α] in
theorem le_length_flatten {count size : Nat} {words : List (List α)}
    (long : ∀ k < count, ∃ word, words[k]? = some word ∧ size ≤ word.length) :
    count * size ≤ words.flatten.length := by
  induction count generalizing words with
  | zero =>
      rw [Nat.zero_mul]
      exact Nat.zero_le _
  | succ count ih =>
      obtain ⟨first, found, firstLong⟩ := long 0 (Nat.succ_pos count)
      cases words with
      | nil => cases found
      | cons word words =>
          obtain rfl := Option.some.inj found
          have rest := @ih words fun k below =>
            long (k + 1) (Nat.succ_lt_succ below)
          rw [List.flatten_cons, List.length_append, Nat.succ_mul]
          omega

/-- Long tokens with a separator for each of them need room. -/
theorem length_of_long_tokens {count size : Nat} (separators : count ≤ text.count separator)
    (long : ∀ k < count, ∃ token, (tokens separator text)[k]? = some token ∧
      size ≤ token.length) : count * (size + 1) ≤ text.length := by
  have room := le_length_flatten long
  have parts := text.length_eq_countP_add_countP (· ≠ separator)
  have separated : text.countP (fun item => ¬decide (item ≠ separator) = true) =
      text.count separator := by
    rw [List.count]
    congr 1
    funext item
    simp [beq_eq_decide]
  rw [flatten_tokens, ← List.countP_eq_length_filter] at room
  rw [Nat.mul_succ]
  omega

theorem length_tokens_le : (tokens separator text).length ≤ text.count separator + 1 := by
  rw [← length_splitOn]
  exact List.length_filter_le _ _

/-- A text with as many tokens as fields has no empty field. -/
theorem tokens_eq_splitOn (full : (tokens separator text).length = text.count separator + 1) :
    tokens separator text = text.splitOn separator := by
  rw [← length_splitOn] at full
  exact List.filter_eq_self.mpr (List.length_filter_eq_length_iff.mp full)

theorem tokens_eq_splitOn_of_nonempty (nonempty : [] ∉ text.splitOn separator) :
    tokens separator text = text.splitOn separator :=
  filter_ne_eq_self nonempty

/-- A text in which only the last field can be empty starts with its fields as tokens. -/
theorem take_tokens (nonempty : [] ∉ (text.splitOn separator).dropLast) :
    (tokens separator text).take (text.count separator) = (text.splitOn separator).dropLast := by
  have split := List.dropLast_concat_getLast (List.splitOn_ne_nil separator text)
  have length : (text.splitOn separator).dropLast.length = text.count separator := by
    rw [List.length_dropLast, length_splitOn, Nat.add_sub_cancel]
  rw [tokens, ← split, List.filter_append, List.dropLast_concat, filter_ne_eq_self nonempty,
    ← length, List.take_left]

end Text

/-- What a loop with the given number of iterations handles. -/
def loopTokens : Nat → List (List α) → List (Option (List α))
  | 0, _ => []
  | remaining + 1, words => words.head? :: loopTokens remaining words.tail

omit [DecidableEq α] in
/-- The loop handles the first tokens when there are enough of them. -/
theorem loopTokens_of_le {count : Nat} {words : List (List α)} (enough : count ≤ words.length) :
    loopTokens count words = (words.take count).map some := by
  induction count generalizing words with
  | zero => rfl
  | succ count ih =>
      cases words with
      | nil => cases enough
      | cons word words =>
          rw [loopTokens, List.tail_cons, ih (Nat.le_of_succ_le_succ enough)]
          rfl

/-- The text after the given number of tokens. -/
def afterTokens (separator : α) : Nat → List α → List α
  | 0, text => text
  | count + 1, text => afterTokens separator count (nextToken separator text).2

section Loop

variable {ε σ : Type} {separator : α} {text : List α}

theorem head_tokens : (tokens separator text).head? = (nextToken separator text).1 := by
  rw [tokens_eq]
  split <;> rename_i shape <;> rw [shape] <;> rfl

theorem tail_tokens : (tokens separator text).tail = tokens separator (nextToken separator text).2 := by
  rw [tokens_eq]
  split
  · rename_i rest exhausted
    have ended : (nextToken separator text).2 = [] :=
      nextToken_rest_of_none (by rw [exhausted])
    rw [ended]
    rfl
  · rename_i token rest found
    rw [found]
    rfl

/-- The loop is a fold over its tokens. -/
theorem tokenLoop_eq {step : σ → Option (List α) → Parsed ε σ} (count : Nat) (text : List α)
    (state : σ) :
    tokenLoop separator step count (nextToken separator text) state =
      (loopTokens count (tokens separator text)).foldlM step state >>= fun final =>
        .accept (final, nextToken separator (afterTokens separator count text)) := by
  induction count generalizing text state with
  | zero => rfl
  | succ count ih =>
      rw [tokenLoop, loopTokens, List.foldlM_cons, bind_assoc, head_tokens, tail_tokens]
      congr 1
      funext next
      exact ih (nextToken separator text).2 next

/-- The token after the loop. -/
theorem nextToken_afterTokens (count : Nat) (text : List α) :
    (nextToken separator (afterTokens separator count text)).1 =
      (tokens separator text)[count]? := by
  induction count generalizing text with
  | zero => rw [afterTokens, ← head_tokens, List.head?_eq_getElem?]
  | succ count ih =>
      rw [afterTokens, ih, ← tail_tokens, List.getElem?_tail]

end Loop

end Memkind.Library
