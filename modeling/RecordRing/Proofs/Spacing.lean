import Mathlib.Data.List.Forall2
import RecordRing.Proofs.Encoding

/-!
# The texts of a value

A JSON value is written with blanks wherever they are of use to somebody. What matters is the
sequence of its tokens: the brackets, commas and colons, and the names, strings, numbers and words
between them. A text of a value is its tokens in their order, with blanks before, between and behind
them (`Value.WrittenAs`). The two forms in which values are written here, without blanks and with
one item a line, are both such texts.

Texts of values are in UTF-8, since every token is.

## Main definitions

* `Value.tokens` — the tokens of a value
* `Spaced` — tokens with blanks between them
* `Value.WrittenAs` — the texts of a value

## Main results

* `Spaced.append` — tokens one after the other
* `writtenAs_compact`, `writtenAs_indented` — both forms are texts of the value
* `Value.WrittenAs.isText` — a text of a value is a text
-/

namespace RecordRing.Json

/-! ### Tokens -/

/-- Bytes that no blank may divide. -/
abbrev Token := List UInt8

/-- Tokens of several items, with a comma between two of them. -/
def commaSeparated : List (List Token) → List Token
  | [] => []
  | item :: items => item ++ items.flatMap ([0x2C] :: ·)

namespace Value

mutual

/-- The tokens of a value. -/
def tokens : Value → List Token
  | .bool b => [boolBytes b]
  | .natural n => [naturalBytes n]
  | .string s => [stringBytes s]
  | .list items => [0x5B] :: (commaSeparated (itemTokens items) ++ [[0x5D]])
  | .object members => [0x7B] :: (commaSeparated (memberTokens members) ++ [[0x7D]])

/-- The tokens of each item of a list. -/
def itemTokens : List Value → List (List Token)
  | [] => []
  | item :: items => item.tokens :: itemTokens items

/-- The tokens of each member of an object. -/
def memberTokens : List (String × Value) → List (List Token)
  | [] => []
  | (name, value) :: members =>
    (stringBytes name :: [0x3A] :: value.tokens) :: memberTokens members

end

end Value

/-! ### Blanks between tokens -/

/-- These bytes separate, and say nothing. -/
def Blank (bs : List UInt8) : Prop := ∀ b ∈ bs, isBlank b = true

theorem blank_nil : Blank [] := by simp [Blank]

theorem Blank.append {bs cs : List UInt8} (hb : Blank bs) (hc : Blank cs) : Blank (bs ++ cs) :=
  List.forall_mem_append.2 ⟨hb, hc⟩

theorem blank_newLine (depth : Nat) : Blank (newLine depth) := by
  intro b hb
  rcases List.mem_cons.1 hb with rfl | hb
  · decide
  · rw [List.eq_of_mem_replicate hb]
    decide

/-- The text is made of the tokens in their order, with blanks before, between and behind them. -/
inductive Spaced : List Token → List UInt8 → Prop
  /-- There are only blanks. -/
  | nil {blanks : List UInt8} (h : Blank blanks) : Spaced [] blanks
  /-- There is a token, behind some blanks. -/
  | cons {blanks : List UInt8} (h : Blank blanks) (token : Token) {tokens : List Token}
    {text : List UInt8} (hrest : Spaced tokens text) :
    Spaced (token :: tokens) (blanks ++ (token ++ text))

/-- The text is a text of the value. -/
def Value.WrittenAs (v : Value) (text : List UInt8) : Prop := Spaced v.tokens text

section Spacing

variable {tokens tokens' : List Token} {text text' blanks : List UInt8}

theorem spaced_token (token : Token) : Spaced [token] token := by
  have h := Spaced.cons blank_nil token (.nil blank_nil)
  rwa [List.nil_append, List.append_nil] at h

/-- The first token stands behind some blanks. -/
theorem Spaced.exists_blank {token : Token} (h : Spaced (token :: tokens) text) :
    ∃ blanks behind, Blank blanks ∧ text = blanks ++ (token ++ behind) ∧ Spaced tokens behind := by
  cases h with
  | cons h _ hrest => exact ⟨_, _, h, rfl, hrest⟩

theorem Spaced.blank_of_nil (h : Spaced [] text) : Blank text := by
  cases h with
  | nil h => exact h

theorem Spaced.blank_append (hb : Blank blanks) (h : Spaced tokens text) :
    Spaced tokens (blanks ++ text) := by
  cases h with
  | nil h => exact .nil (hb.append h)
  | cons h token hrest =>
    rw [← List.append_assoc]
    exact .cons (hb.append h) token hrest

/-- **Tokens one after the other** are written one after the other. -/
theorem Spaced.append (h : Spaced tokens text) (h' : Spaced tokens' text') :
    Spaced (tokens ++ tokens') (text ++ text') := by
  induction h with
  | nil hb => exact h'.blank_append hb
  | cons hb token _ ih =>
    rw [List.append_assoc, List.append_assoc, List.cons_append]
    exact .cons hb token ih

theorem Spaced.cons_token (token : Token) (h : Spaced tokens text) :
    Spaced (token :: tokens) (token ++ text) := .cons blank_nil token h

/-- Items are separated by a comma, and blanks behind it. -/
theorem spaced_separated (hb : Blank blanks) {items : List (List Token)}
    {texts : List (List UInt8)} (h : List.Forall₂ Spaced items texts) :
    Spaced (commaSeparated items) (separated (0x2C :: blanks) texts) := by
  induction h with
  | nil => exact .nil blank_nil
  | @cons item text items texts hitem hitems ih =>
    cases hitems with
    | nil => simpa [commaSeparated, separated] using hitem
    | @cons item' text' items texts =>
      have hnext := Spaced.cons_token [0x2C] (ih.blank_append hb)
      have hboth := hitem.append hnext
      simpa [commaSeparated, separated] using hboth

/-- Brackets around tokens, with blanks inside. -/
theorem Spaced.enclosed (left right : UInt8) {blanks' : List UInt8} (hb : Blank blanks)
    (h : Spaced tokens text) (hb' : Blank blanks') :
    Spaced ([left] :: (tokens ++ [[right]])) (left :: (blanks ++ (text ++ (blanks' ++ [right])))) :=
  .cons_token [left] ((h.append ((spaced_token [right]).blank_append hb')).blank_append hb)

/-- Brackets around items, each on a line of its own. -/
theorem spaced_block (depth : Nat) (left right : UInt8) {items : List (List Token)}
    {texts : List (List UInt8)} (h : List.Forall₂ Spaced items texts) :
    Spaced ([left] :: (commaSeparated items ++ [[right]])) (block depth left right texts) := by
  rw [block]
  cases h with
  | nil => exact .cons_token [left] (spaced_token [right])
  | cons hitem hitems =>
    have hinside := spaced_separated (blank_newLine (depth + 1)) (.cons hitem hitems)
    have hblock := hinside.enclosed left right (blank_newLine (depth + 1)) (blank_newLine depth)
    simpa using hblock

/-- Every token stands in the text, in the order of the tokens. -/
theorem Spaced.flatten_sublist (h : Spaced tokens text) : tokens.flatten.Sublist text := by
  induction h with
  | nil h => exact List.nil_sublist _
  | cons h token _ ih =>
    rw [List.flatten_cons]
    exact ((List.Sublist.refl token).append ih).trans (List.sublist_append_right _ _)

theorem Blank.isText (h : Blank blanks) : Text.IsText blanks := by
  apply Text.isText_of_ascii
  intro b hb
  have hblank := h b hb
  simp only [isBlank, Bool.or_eq_true, decide_eq_true_eq] at hblank
  rcases hblank with ((rfl | rfl) | rfl) | rfl <;> decide

/-- What is made of texts and blanks is a text. -/
theorem Spaced.isText (h : Spaced tokens text) (htokens : ∀ token ∈ tokens, Text.IsText token) :
    Text.IsText text := by
  induction h with
  | nil h => exact h.isText
  | cons h token _ ih =>
    obtain ⟨htoken, hrest⟩ := List.forall_mem_cons.1 htokens
    exact h.isText.append (htoken.append (ih hrest))

end Spacing

/-! ### The two forms -/

mutual

/-- **The form without blanks** is a text of the value. -/
theorem writtenAs_compact : ∀ v : Value, v.WrittenAs v.compact
  | .bool _ | .natural _ | .string _ => spaced_token _
  | .list items => by
    have h := (spaced_separated blank_nil (forall₂_compactItems items)).enclosed 0x5B 0x5D
      blank_nil blank_nil
    simpa [Value.WrittenAs, Value.tokens, Value.compact] using h
  | .object members => by
    have h := (spaced_separated blank_nil (forall₂_compactMembers members)).enclosed 0x7B 0x7D
      blank_nil blank_nil
    simpa [Value.WrittenAs, Value.tokens, Value.compact, objectBytes] using h

theorem forall₂_compactItems : ∀ items : List Value,
    List.Forall₂ Spaced (Value.itemTokens items) (Value.compactItems items)
  | [] => .nil
  | item :: items => .cons (writtenAs_compact item) (forall₂_compactItems items)

theorem forall₂_compactMembers : ∀ members : List (String × Value),
    List.Forall₂ Spaced (Value.memberTokens members) (Value.compactMembers members)
  | [] => .nil
  | (name, value) :: members =>
    .cons (.cons_token (stringBytes name) (.cons_token [0x3A] (writtenAs_compact value)))
      (forall₂_compactMembers members)

end

mutual

/-- **The form with one item a line** is one, too. -/
theorem writtenAs_indentedAt (depth : Nat) : ∀ v : Value, v.WrittenAs (v.indentedAt depth)
  | .bool _ | .natural _ | .string _ => spaced_token _
  | .list items => spaced_block depth 0x5B 0x5D (forall₂_indentedItems (depth + 1) items)
  | .object members => spaced_block depth 0x7B 0x7D (forall₂_indentedMembers (depth + 1) members)

theorem forall₂_indentedItems (depth : Nat) : ∀ items : List Value,
    List.Forall₂ Spaced (Value.itemTokens items) (Value.indentedItems depth items)
  | [] => .nil
  | item :: items => .cons (writtenAs_indentedAt depth item) (forall₂_indentedItems depth items)

theorem forall₂_indentedMembers (depth : Nat) : ∀ members : List (String × Value),
    List.Forall₂ Spaced (Value.memberTokens members) (Value.indentedMembers depth members)
  | [] => .nil
  | (name, value) :: members => by
    have hspace : Blank [0x20] := by simp [Blank, isBlank]
    have hvalue := (writtenAs_indentedAt depth value).blank_append hspace
    exact .cons (.cons_token (stringBytes name) (.cons_token [0x3A] hvalue))
      (forall₂_indentedMembers depth members)

end

theorem writtenAs_indented (v : Value) : v.WrittenAs v.indented := writtenAs_indentedAt 0 v

/-! ### Texts of values are texts -/

theorem isText_naturalBytes (n : Nat) : Text.IsText (naturalBytes n) := by
  apply Text.isText_of_ascii
  intro b hb
  have hdigit := isDigit_of_mem_naturalBytes hb
  simp only [isDigit, Bool.and_eq_true, decide_eq_true_eq] at hdigit
  exact UInt8.lt_of_le_of_lt hdigit.2 (by decide)

theorem isText_boolBytes (b : Bool) : Text.IsText (boolBytes b) := by
  cases b <;> exact Text.isText_of_ascii (by simp [boolBytes])

theorem isText_mark {b : UInt8} (hb : b < 0x80) : Text.IsText [b] :=
  Text.isText_of_ascii (List.forall_mem_singleton.2 hb)

/-- Commas between items are the only tokens that are not of an item. -/
theorem forall_mem_commaSeparated {P : Token → Prop} {items : List (List Token)}
    (hcomma : P [0x2C]) (h : ∀ item ∈ items, ∀ token ∈ item, P token) :
    ∀ token ∈ commaSeparated items, P token := by
  cases items with
  | nil => exact fun token htoken => absurd htoken List.not_mem_nil
  | cons item items =>
    obtain ⟨hitem, hitems⟩ := List.forall_mem_cons.1 h
    refine List.forall_mem_append.2 ⟨hitem, ?_⟩
    intro token htoken
    obtain ⟨item', hmem, htoken⟩ := List.mem_flatMap.1 htoken
    rcases List.mem_cons.1 htoken with rfl | htoken
    · exact hcomma
    · exact hitems item' hmem token htoken

theorem isText_enclosed {left right : UInt8} (hl : left < 0x80) (hr : right < 0x80)
    {items : List (List Token)} (h : ∀ item ∈ items, ∀ token ∈ item, Text.IsText token) :
    ∀ token ∈ [left] :: (commaSeparated items ++ [[right]]), Text.IsText token :=
  List.forall_mem_cons.2 ⟨isText_mark hl, List.forall_mem_append.2
    ⟨forall_mem_commaSeparated (isText_mark (by decide)) h,
      List.forall_mem_singleton.2 (isText_mark hr)⟩⟩

mutual

theorem isText_tokens : ∀ v : Value, ∀ token ∈ v.tokens, Text.IsText token
  | .bool b => List.forall_mem_singleton.2 (isText_boolBytes b)
  | .natural n => List.forall_mem_singleton.2 (isText_naturalBytes n)
  | .string s => List.forall_mem_singleton.2 (isText_stringBytes s)
  | .list items => isText_enclosed (by decide) (by decide) (isText_itemTokens items)
  | .object members => isText_enclosed (by decide) (by decide) (isText_memberTokens members)

theorem isText_itemTokens : ∀ items : List Value,
    ∀ item ∈ Value.itemTokens items, ∀ token ∈ item, Text.IsText token
  | [] => nofun
  | item :: items => List.forall_mem_cons.2 ⟨isText_tokens item, isText_itemTokens items⟩

theorem isText_memberTokens : ∀ members : List (String × Value),
    ∀ item ∈ Value.memberTokens members, ∀ token ∈ item, Text.IsText token
  | [] => nofun
  | (name, value) :: members => by
    have hmember : ∀ token ∈ stringBytes name :: [0x3A] :: value.tokens, Text.IsText token :=
      List.forall_mem_cons.2 ⟨isText_stringBytes name,
        List.forall_mem_cons.2 ⟨isText_mark (by decide), isText_tokens value⟩⟩
    exact List.forall_mem_cons.2 ⟨hmember, isText_memberTokens members⟩

end

/-- **A text of a value is a text.** -/
theorem Value.WrittenAs.isText {v : Value} {text : List UInt8} (h : v.WrittenAs text) :
    Text.IsText text := Spaced.isText h (isText_tokens v)

end RecordRing.Json
