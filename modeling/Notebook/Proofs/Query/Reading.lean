import Mathlib.Data.List.Basic
import Notebook.Proofs.Query.Tokens
import Notebook.Proofs.Text.Cutting

/-! # Queries for conditions, read back

The query for some conditions is cut into the tokens that were meant, and they are read as one selection for each
condition, in order.
-/

namespace Notebook

open QueryToken (spaced spaced_append spaced_singleton)

/-! ## Tokens -/

def keywords : List Text :=
  ["SELECT", "id", "FROM", "records", "tags", "WHERE", "path", "text", "name", "value", "REGEXP", "AND", "IS", "NULL",
    "INTERSECT"].map String.toList

def keyword (w : String) : QueryToken := .word w.toList

def Operand.token : Operand → QueryToken
  | numeral t => .numeral t
  | text t => .literal t

namespace Condition

def tokens : Condition → List QueryToken
  | path pattern => [keyword "path", keyword "REGEXP", .literal pattern]
  | text pattern => [keyword "text", keyword "REGEXP", .literal pattern]
  | tag name =>
    [keyword "name", .symbol ['='], .literal name, keyword "AND", keyword "value", keyword "IS", keyword "NULL"]
  | compare name op value =>
    [keyword "name", .symbol ['='], .literal name, keyword "AND", keyword "value", .symbol op.symbol, value.token]
  | matching name pattern =>
    [keyword "name", .symbol ['='], .literal name, keyword "AND", keyword "value", keyword "REGEXP", .literal pattern]

def selectionTokens (c : Condition) : List QueryToken :=
  keyword "SELECT" :: keyword "id" :: keyword "FROM" :: .word c.table.name :: keyword "WHERE" :: c.tokens

/-- What stands in the tokens of a condition for the terms that it was made from. -/
def given : Condition → List QueryToken
  | path pattern | text pattern => [.literal pattern]
  | tag name => [.literal name]
  | compare name _ value => [.literal name, value.token]
  | matching name pattern => [.literal name, .literal pattern]

def IsFinite : Condition → Prop
  | compare _ _ (.numeral t) => ∃ x, readNumber? t = some x
  | _ => True

end Condition

def chainTokens : List Condition → List QueryToken
  | [] => []
  | [c] => c.selectionTokens
  | c :: d :: rest => c.selectionTokens ++ keyword "INTERSECT" :: chainTokens (d :: rest)

/-! ## What is written -/

theorem queryText_cons_cons (c d : Condition) (rest : List Condition) :
    queryText (c :: d :: rest) = c.query ++ " INTERSECT ".toList ++ queryText (d :: rest) :=
  Text.joined_cons_cons _ _ _ _

theorem queryText_singleton (c : Condition) : queryText [c] = c.query := Text.joined_singleton _ _

theorem spaced_around {start : Text} {front : List QueryToken} (h : ' ' :: start = spaced front ++ [' '])
    (token : QueryToken) (back : List QueryToken) :
    ' ' :: (start ++ (token.written ++ spaced back)) = spaced (front ++ token :: back) := by
  rw [← List.cons_append, h, spaced_append, List.append_assoc]
  rfl

theorem spaced_before {start : Text} {front : List QueryToken} (h : ' ' :: start = spaced front ++ [' '])
    (token : QueryToken) : ' ' :: (start ++ token.written) = spaced (front ++ [token]) := by
  have h := spaced_around h token []
  rwa [QueryToken.spaced_nil, List.append_nil] at h

theorem Operand.written_token (value : Operand) : value.token.written = value.written := by
  cases value <;> rfl

namespace Condition

theorem spaced_tokens (c : Condition) : ' ' :: c.written = spaced c.tokens := by
  have hname : ' ' :: "name = ".toList = spaced [keyword "name", .symbol ['=']] ++ [' '] := by decide
  cases c with
  | path pattern =>
    have hstart : ' ' :: "path REGEXP ".toList = spaced [keyword "path", keyword "REGEXP"] ++ [' '] := by decide
    exact spaced_before hstart (.literal pattern)
  | text pattern =>
    have hstart : ' ' :: "text REGEXP ".toList = spaced [keyword "text", keyword "REGEXP"] ++ [' '] := by decide
    exact spaced_before hstart (.literal pattern)
  | tag name =>
    have hback : " AND value IS NULL".toList
        = spaced [keyword "AND", keyword "value", keyword "IS", keyword "NULL"] := by decide
    dsimp only [written]
    rw [List.append_assoc, hback]
    exact spaced_around hname (.literal name) _
  | compare name op value =>
    have hvalue : " AND value ".toList = spaced [keyword "AND", keyword "value"] ++ [' '] := by decide
    have hback : " AND value ".toList ++ (op.symbol ++ ' ' :: value.written)
        = spaced ([keyword "AND", keyword "value"] ++ [.symbol op.symbol] ++ [value.token]) := by
      rw [hvalue, spaced_append, spaced_append, spaced_singleton, spaced_singleton, value.written_token,
        List.append_assoc, List.append_assoc]
      rfl
    dsimp only [written]
    rw [List.append_assoc, List.append_assoc, List.append_assoc, hback]
    exact spaced_around hname (.literal name) _
  | matching name pattern =>
    have hmiddle : " AND value REGEXP ".toList
        = spaced [keyword "AND", keyword "value", keyword "REGEXP"] ++ [' '] := by decide
    have hback : " AND value REGEXP ".toList ++ literalOf pattern
        = spaced ([keyword "AND", keyword "value", keyword "REGEXP"] ++ [.literal pattern]) := by
      rw [hmiddle, spaced_append, spaced_singleton, List.append_assoc]
      rfl
    dsimp only [written]
    rw [List.append_assoc, List.append_assoc, hback]
    exact spaced_around hname (.literal name) _

theorem spaced_selectionTokens (c : Condition) : ' ' :: c.query = spaced c.selectionTokens := by
  have hfrom : ' ' :: "SELECT id FROM ".toList
      = spaced [keyword "SELECT", keyword "id", keyword "FROM"] ++ [' '] := by decide
  have hwhere : " WHERE ".toList = spaced [keyword "WHERE"] ++ [' '] := by decide
  have hback : " WHERE ".toList ++ c.written = spaced ([keyword "WHERE"] ++ c.tokens) := by
    rw [hwhere, spaced_append, ← c.spaced_tokens, List.append_assoc]
    rfl
  unfold query
  rw [List.append_assoc, List.append_assoc, hback]
  exact spaced_around hfrom (.word c.table.name) _

end Condition

theorem spaced_chainTokens (c : Condition) (rest : List Condition) :
    ' ' :: queryText (c :: rest) = spaced (chainTokens (c :: rest)) := by
  induction rest generalizing c with
  | nil => rw [queryText_singleton, c.spaced_selectionTokens, chainTokens]
  | cons d rest ih =>
    rw [queryText_cons_cons, chainTokens, spaced_append, ← c.spaced_selectionTokens]
    have hrest : spaced (keyword "INTERSECT" :: chainTokens (d :: rest))
        = " INTERSECT".toList ++ spaced (chainTokens (d :: rest)) := rfl
    rw [hrest, ← ih d]
    simp

theorem mem_queryText {c : Char} {conditions : List Condition} (h : c ∈ queryText conditions) :
    c = ' ' ∨ ∃ token ∈ chainTokens conditions, c ∈ token.written := by
  cases conditions with
  | nil => cases h
  | cons first rest =>
    have hspaced : c ∈ spaced (chainTokens (first :: rest)) := by
      rw [← spaced_chainTokens]
      exact .tail _ h
    obtain ⟨token, htoken, hc⟩ := List.mem_flatMap.1 hspaced
    exact (List.mem_cons.1 hc).imp_right fun hc => ⟨token, htoken, hc⟩

/-! ## What the tokens are -/

theorem scan?_of_readNumber? {t : Text} {x : Double} (h : readNumber? t = some x) :
    ∃ n, Numeral.scan? t = some (n, []) := by
  rw [readNumber?, Option.filter_eq_some_iff] at h
  obtain ⟨hread, hfinite⟩ := h
  unfold Double.ofText? at hread
  split at hread
  · rename_i n hscan
    exact ⟨n, hscan⟩
  · -- The words for numbers stand for infinities and for the NaN.
    exfalso
    simp only [namedNumber?] at hread
    split at hread
    · cases hread
      exact absurd hfinite (by simp [Double.isFinite])
    · split at hread
      · cases hread
        exact absurd hfinite (by simp [Double.isFinite])
      · cases hread

theorem isWritable_keyword {t : Text} (h : t ∈ keywords) : (QueryToken.word t).IsWritable := by
  simp only [keywords, List.map_cons, List.map_nil, List.mem_cons, List.not_mem_nil, or_false] at h
  rcases h with rfl | rfl | rfl | rfl | rfl | rfl | rfl | rfl | rfl | rfl | rfl | rfl | rfl | rfl | rfl <;>
    exact ⟨_, _, rfl, rfl, List.all_eq_true.1 (by decide)⟩

/-- What the tokens of queries are, apart from what stands in literals. -/
def QueryToken.IsPlanned : QueryToken → Prop
  | word t => t ∈ keywords
  | literal _ => True
  | numeral t => ∃ x, readNumber? t = some x
  | symbol t => ∃ op : Comparison, t = op.symbol

theorem QueryToken.IsPlanned.isWritable {token : QueryToken} (h : token.IsPlanned) : token.IsWritable := by
  cases token with
  | word t => exact isWritable_keyword h
  | literal t => trivial
  | numeral t =>
    obtain ⟨x, hx⟩ := h
    exact scan?_of_readNumber? hx
  | symbol t =>
    obtain ⟨op, rfl⟩ := h
    cases op <;> simp [IsWritable, Comparison.symbol, isOperatorChar]

namespace Condition

theorem isPlanned_tokens {c : Condition} (h : c.IsFinite) : ∀ token ∈ c.tokens, token.IsPlanned := by
  have hequal : QueryToken.IsPlanned (.symbol ['=']) := ⟨.equal, rfl⟩
  have hword {w : String} (hw : w.toList ∈ keywords) : (keyword w).IsPlanned := hw
  have hnamed (name : Text) : ∀ token ∈ [keyword "name", .symbol ['='], .literal name, keyword "AND", keyword "value"],
      token.IsPlanned := by
    simp only [List.forall_mem_cons, List.not_mem_nil, false_implies, implies_true, and_true]
    exact ⟨hword (by decide), hequal, trivial, hword (by decide), hword (by decide)⟩
  cases c with
  | path pattern | text pattern =>
    simp only [tokens, List.forall_mem_cons, List.not_mem_nil, false_implies, implies_true, and_true]
    exact ⟨hword (by decide), hword (by decide), trivial⟩
  | tag name =>
    refine List.forall_mem_append.2 ⟨hnamed name, ?_⟩
    simp only [List.forall_mem_cons, List.not_mem_nil, false_implies, implies_true, and_true]
    exact ⟨hword (by decide), hword (by decide)⟩
  | compare name op value =>
    refine List.forall_mem_append.2 ⟨hnamed name, ?_⟩
    simp only [List.forall_mem_cons, List.not_mem_nil, false_implies, implies_true, and_true]
    cases value with
    | numeral t => exact ⟨⟨op, rfl⟩, h⟩
    | text t => exact ⟨⟨op, rfl⟩, trivial⟩
  | matching name pattern =>
    refine List.forall_mem_append.2 ⟨hnamed name, ?_⟩
    simp only [List.forall_mem_cons, List.not_mem_nil, false_implies, implies_true, and_true]
    exact ⟨hword (by decide), trivial⟩

theorem isPlanned_selectionTokens {c : Condition} (h : c.IsFinite) :
    ∀ token ∈ c.selectionTokens, token.IsPlanned := by
  have htable (table : Table) : table.name ∈ keywords := by cases table <;> decide
  have hword {w : String} (hw : w.toList ∈ keywords) : (keyword w).IsPlanned := hw
  simp only [selectionTokens, List.forall_mem_cons]
  exact ⟨hword (by decide), hword (by decide), hword (by decide), htable c.table, hword (by decide),
    isPlanned_tokens h⟩

end Condition

theorem isPlanned_chainTokens {conditions : List Condition} (h : ∀ c ∈ conditions, c.IsFinite) :
    ∀ token ∈ chainTokens conditions, token.IsPlanned := by
  fun_induction chainTokens conditions with
  | case1 => simp
  | case2 c => exact Condition.isPlanned_selectionTokens (h c (by simp))
  | case3 c d rest ih =>
    have hword : "INTERSECT".toList ∈ keywords := by decide
    refine List.forall_mem_append.2 ⟨Condition.isPlanned_selectionTokens (h c (by simp)), ?_⟩
    exact List.forall_mem_cons.2 ⟨hword, ih fun e he => h e (.tail _ he)⟩

def QueryToken.isGiven : QueryToken → Bool
  | literal _ | numeral _ => true
  | word _ | symbol _ => false

theorem Condition.filter_selectionTokens (c : Condition) : c.selectionTokens.filter QueryToken.isGiven = c.given := by
  cases c with
  | path pattern | text pattern | tag name | matching name pattern => rfl
  | compare name op value => cases value <;> rfl

theorem filter_chainTokens (conditions : List Condition) :
    (chainTokens conditions).filter QueryToken.isGiven = conditions.flatMap Condition.given := by
  fun_induction chainTokens conditions with
  | case1 => rfl
  | case2 c => rw [c.filter_selectionTokens, List.flatMap_singleton]
  | case3 c d rest ih =>
    rw [List.filter_append, c.filter_selectionTokens, List.flatMap_cons, ← ih]
    rfl

/-! ## What is read -/

namespace Condition

def selection (c : Condition) : Selection := ⟨.id, c.table, some c⟩

theorem readCondition?_tokens (c : Condition) (rest : List QueryToken) :
    readCondition? (c.tokens ++ rest) = some (c, rest) := by
  cases c with
  | path pattern | text pattern | tag name | matching name pattern => rfl
  | compare name op value =>
    cases value <;> cases op <;> rfl

theorem readSelection?_tokens (c : Condition) (rest : List QueryToken) :
    readSelection? (c.selectionTokens ++ rest) = some (c.selection, rest) := by
  have hcolumn : Column.named? "id".toList = some .id := by decide
  have htable (table : Table) : Table.named? table.name = some table := by cases table <;> decide
  have hselect : isWord "select" "SELECT".toList = true := by decide
  have hfrom : isWord "from" "FROM".toList = true := by decide
  have hwhere : isWord "where" "WHERE".toList = true := by decide
  simp only [selectionTokens, keyword, List.cons_append, readSelection?, hcolumn, htable, hselect, hfrom, hwhere,
    Column.isIn, Bool.not_true, Bool.or_self, Bool.false_eq_true, if_true, if_false, c.readCondition?_tokens, selection]

end Condition

theorem readSelections?_intersect {tokens more : List QueryToken} {s : Selection}
    (h : readSelection? tokens = some (s, keyword "INTERSECT" :: more)) (hmore : more.length < tokens.length) :
    readSelections? tokens = (readSelections? more).map (s :: ·) := by
  have hword : isWord "intersect" "INTERSECT".toList = true := by decide
  rw [readSelections?, h, keyword]
  dsimp only
  rw [dif_pos hmore, if_pos hword]

theorem readSelections?_chainTokens (c : Condition) (rest : List Condition) :
    readSelections? (chainTokens (c :: rest)) = some ((c :: rest).map Condition.selection) := by
  induction rest generalizing c with
  | nil =>
    have h := c.readSelection?_tokens []
    rw [List.append_nil] at h
    rw [chainTokens, readSelections?, h]
    rfl
  | cons d rest ih =>
    -- The reader goes on only with fewer tokens.
    have hmore : (chainTokens (d :: rest)).length
        < (c.selectionTokens ++ keyword "INTERSECT" :: chainTokens (d :: rest)).length := by
      simp only [List.length_append, List.length_cons]
      omega
    rw [chainTokens, readSelections?_intersect (c.readSelection?_tokens _) hmore, ih d]
    rfl

/-! ## Whole queries -/

section

variable {conditions : List Condition} (hfinite : ∀ c ∈ conditions, c.IsFinite)

include hfinite

theorem queryTokens?_queryText : queryTokens? (queryText conditions) = some (chainTokens conditions) := by
  have hwritable : ∀ token ∈ chainTokens conditions, token.IsWritable := fun token htoken =>
    (isPlanned_chainTokens hfinite token htoken).isWritable
  cases conditions with
  | nil => rfl
  | cons c rest => exact QueryToken.queryTokens?_spaced hwritable (spaced_chainTokens c rest)

theorem readStatement?_queryText (hnul : '\x00' ∉ queryText conditions) :
    readStatement? (queryText conditions) = some (conditions.map Condition.selection) := by
  rw [readStatement?, if_neg hnul, queryTokens?_queryText hfinite, Option.bind_some]
  cases conditions with
  | nil => rfl
  | cons c rest =>
    have hne : chainTokens (c :: rest) ≠ [] := by cases rest <;> simp [chainTokens, Condition.selectionTokens]
    rw [if_neg hne, readSelections?_chainTokens]

theorem readQuery?_queryText (hnul : '\x00' ∉ queryText conditions) (hne : conditions ≠ []) :
    readQuery? (queryText conditions)
      = if conditions.length ≤ greatestSelections then some (conditions.map Condition.selection) else none := by
  obtain ⟨c, rest, rfl⟩ := List.exists_cons_of_ne_nil hne
  rw [readQuery?, if_neg hnul, queryTokens?_queryText hfinite, Option.bind_some, readSelections?_chainTokens,
    Option.filter_some, List.length_map]
  simp only [decide_eq_true_eq]

end

end Notebook
