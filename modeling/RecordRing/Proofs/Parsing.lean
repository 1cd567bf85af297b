import RecordRing.Json.Shape
import RecordRing.Proofs.Spacing

/-!
# What readers make of a value

A reader stops in the middle of a text, and what it has left is told by the tokens that are left,
with the rest of one token in front of them if it stops inside. So each reader has an account of the
form: from these tokens it reads this, and leaves those (`Yields`).

A value is read the same whatever comes behind it (`Parses`), with one proviso: a number ends where
something stands that does not go on with it. Behind a value stands a comma, a closing bracket or
nothing, and none of these does (`Ends`).

A record is read member by member. Each member is found among the fields by its name, must be new,
and adds to what is known (`Shape.Fills`); in which order they come does not matter, as long as
each of them can be added.

## Main definitions

* `Yields`, `At` — what a reader gives and leaves
* `Ends`, `Parses` — reading a value, whatever comes behind it
* `Shape.Fills` — members that fill in a record

## Main results

* `parses_natural`, `parses_bool` — numbers and truth values
* `Shape.fills_of_names` — members in any order, and some of them left out
* `Shape.parses_object` — records
* `Parses.read_eq` — a text of the value is read
-/

namespace RecordRing.Json

variable {α β σ : Type} {tokens : List Token} {n : Nat}

/-! ### Reading on -/

/-- From every text with `P` the reader gives `a`, and leaves a text with `Q`. -/
def Yields (P : List UInt8 → Prop) (r : Reader α) (a : α) (Q : List UInt8 → Prop) : Prop :=
  ∀ c : Cursor, P c.rest → ∃ c' : Cursor, r c = (.ok a, c') ∧ Q c'.rest

/-- The bytes come next, and the tokens behind them. -/
def At (bs : List UInt8) (tokens : List Token) (text : List UInt8) : Prop :=
  ∃ behind, text = bs ++ behind ∧ Spaced tokens behind

theorem at_nil (tokens : List Token) : At [] tokens = Spaced tokens := by
  funext text
  simp [At]

section Steps

variable {P Q R : List UInt8 → Prop} {r : Reader α} {a : α}

theorem yields_pure (a : α) : Yields P (pure a) a P := fun c hc => ⟨c, rfl, hc⟩

theorem Yields.bind {f : α → Reader β} {b : β} (h : Yields P r a Q) (hf : Yields Q (f a) b R) :
    Yields P (r >>= f) b R := by
  intro c hc
  obtain ⟨c', hr, hc'⟩ := h c hc
  obtain ⟨c'', hr', hc''⟩ := hf c' hc'
  exact ⟨c'', by rw [bind_of_ok hr, hr'], hc''⟩

theorem Yields.placed (h : Yields P r a Q) : Yields P (placed r) a Q := by
  intro c hc
  obtain ⟨c', hr, hc'⟩ := h c hc
  exact ⟨c', by rw [Json.placed, hr], hc'⟩

theorem Yields.enclosed {close : Reader Unit} (h : Yields P r a Q) (hclose : Yields Q close () R) :
    Yields P (enclosed r close) a R := by
  intro c hc
  obtain ⟨c', hr, hc'⟩ := h c hc
  obtain ⟨c'', hr', hc''⟩ := hclose c' hc'
  refine ⟨c'', ?_, hc''⟩
  rw [Json.enclosed, hr]
  dsimp only
  rw [hr']

variable {b : UInt8} {bs : List UInt8}

/-- What separates is passed, and the first byte of a token found. -/
theorem yields_blank (hb : isBlank b = false) :
    Yields (Spaced ((b :: bs) :: tokens)) blank (some b) (At (b :: bs) tokens) := by
  rintro ⟨text, offset⟩ hc
  obtain ⟨blanks, behind, hblanks, rfl, hbehind⟩ := hc.exists_blank
  have htake : (blanks ++ (b :: bs ++ behind)).takeWhile isBlank = blanks := by
    rw [List.takeWhile_append_of_pos hblanks, List.cons_append,
      List.takeWhile_cons_of_neg (by simp [hb]), List.append_nil]
  refine ⟨⟨b :: bs ++ behind, offset + blanks.length⟩, ?_, behind, rfl, hbehind⟩
  rw [blank, htake, Cursor.drop_eq, List.drop_left]
  simp

/-- At the end of a text there is nothing but what separates. -/
theorem yields_blank_nil : Yields (Spaced []) blank none (Spaced []) := by
  rintro ⟨text, offset⟩ hc
  have htake : text.takeWhile isBlank = text := by
    have hall : (text ++ []).takeWhile isBlank = text ++ [].takeWhile isBlank :=
      List.takeWhile_append_of_pos hc.blank_of_nil
    simpa using hall
  refine ⟨⟨[], offset + text.length⟩, ?_, .nil blank_nil⟩
  rw [blank, htake, Cursor.drop_eq, List.drop_length]
  simp

theorem yields_skip : Yields (At (b :: bs) tokens) skip () (At bs tokens) := by
  rintro ⟨text, offset⟩ ⟨behind, rfl, hbehind⟩
  exact ⟨⟨bs ++ behind, offset + 1⟩, rfl, behind, rfl, hbehind⟩

theorem yields_peek : Yields (At (b :: bs) tokens) peek (some b) (At (b :: bs) tokens) := by
  rintro ⟨text, offset⟩ ⟨behind, rfl, hbehind⟩
  exact ⟨_, rfl, behind, rfl, hbehind⟩

theorem yields_next : Yields (At (b :: bs) tokens) next (some b) (At bs tokens) := by
  rintro ⟨text, offset⟩ ⟨behind, rfl, hbehind⟩
  exact ⟨⟨bs ++ behind, offset + 1⟩, rfl, behind, rfl, hbehind⟩

/-- A word is read letter by letter. -/
theorem yields_word (bs : List UInt8) : Yields (At bs tokens) (word bs) () (Spaced tokens) := by
  induction bs with
  | nil =>
    rw [at_nil]
    exact yields_pure ()
  | cons b bs ih =>
    refine yields_next.bind ?_
    dsimp only
    rw [if_pos rfl]
    exact ih

theorem yields_stringBody (s : String) :
    Yields (At (stringBytes s).tail tokens) stringBody s (Spaced tokens) := by
  rintro ⟨text, offset⟩ ⟨behind, rfl, hbehind⟩
  obtain ⟨offset', h⟩ := stringBody_stringBytes s behind offset
  exact ⟨_, h, hbehind⟩

/-- A token of one byte that is looked for is passed. -/
theorem yields_mark (hb : isBlank b = false) {f : Option UInt8 → Reader Unit}
    (hf : f (some b) = skip) :
    Yields (Spaced ([b] :: tokens)) (blank >>= f) () (Spaced tokens) := by
  have hskip : Yields (At [b] tokens) skip () (At [] tokens) := yields_skip
  rw [at_nil, ← hf] at hskip
  exact (yields_blank hb).bind hskip

theorem yields_colon : Yields (Spaced ([0x3A] :: tokens)) colon () (Spaced tokens) :=
  yields_mark (by decide) rfl

theorem yields_closeObject : Yields (Spaced ([0x7D] :: tokens)) closeObject () (Spaced tokens) :=
  yields_mark (by decide) rfl

end Steps

/-! ### Reading values -/

/-- Whether a number that comes to this byte goes on. -/
def goesOn (b : UInt8) : Bool := isDigit b || b = 0x2E || b = 0x65 || b = 0x45

/-- A value ends here: there is nothing more, or a comma or a bracket. -/
def Ends (tokens : List Token) : Prop :=
  tokens.head? ∈ [none, some [0x2C], some [0x5D], some [0x7D]]

theorem goesOn_of_isBlank {b : UInt8} (h : isBlank b = true) : goesOn b = false := by
  simp only [isBlank, Bool.or_eq_true, decide_eq_true_eq] at h
  rcases h with ((rfl | rfl) | rfl) | rfl <;> rfl

theorem Ends.goesOn_eq_false {text : List UInt8} (he : Ends tokens) (h : Spaced tokens text)
    {b : UInt8} (hb : b ∈ text.head?) : goesOn b = false := by
  cases tokens with
  | nil => exact goesOn_of_isBlank (h.blank_of_nil b (List.mem_of_mem_head? hb))
  | cons token tokens =>
    obtain ⟨blanks, behind, hblanks, rfl, -⟩ := h.exists_blank
    cases blanks with
    | nil =>
      simp only [Ends, List.head?_cons, List.mem_cons, reduceCtorEq, Option.some.injEq,
        List.not_mem_nil, or_false, false_or] at he
      rcases he with rfl | rfl | rfl <;> obtain rfl := Option.mem_some.1 hb <;> rfl
    | cons first blanks =>
      obtain rfl := Option.mem_some.1 hb
      exact goesOn_of_isBlank (hblanks first List.mem_cons_self)

/-- The byte behind a value, if there is one, goes on with no number. -/
theorem Ends.yields_peek {Q : List UInt8 → Prop} {a : α} {f : Option UInt8 → Reader α}
    (he : Ends tokens)
    (h : ∀ b?, (∀ b ∈ b?, goesOn b = false) → Yields (Spaced tokens) (f b?) a Q) :
    Yields (Spaced tokens) (peek >>= f) a Q := by
  intro c hc
  have hpeek : peek c = (.ok c.rest.head?, c) := rfl
  obtain ⟨c', hf, hc'⟩ := h c.rest.head? (fun b => he.goesOn_eq_false hc) c hc
  exact ⟨c', by rw [bind_of_ok hpeek, hf], hc'⟩

/-- The reader reads `a` from the value, and stops behind it. -/
def Parses (r : Reader α) (v : Value) (a : α) : Prop :=
  ∀ tokens, Ends tokens → Yields (Spaced (v.tokens ++ tokens)) r a (Spaced tokens)

theorem Parses.map {r : Reader α} {v : Value} {a : α} (h : Parses r v a) (f : α → β) :
    Parses (do return f (← r)) v (f a) := by
  intro tokens he
  exact (h tokens he).bind (yields_pure (f a))

/-- **A text of a value is read** as the reader reads the value. -/
theorem Parses.read_eq {r : Reader α} {v : Value} {a : α} (h : Parses r v a) {text : List UInt8}
    (htext : v.WrittenAs text) : read r text = .ok a := by
  have hvalue := h [] (by simp [Ends])
  rw [List.append_nil] at hvalue
  have hfinish : Yields (Spaced []) finish () (Spaced []) := yields_blank_nil.bind (yields_pure ())
  have hwhole : Yields (Spaced []) (do finish; pure a : Reader α) a (Spaced []) :=
    hfinish.bind (yields_pure a)
  have hread : Yields (Spaced v.tokens) (do let a ← r; finish; pure a : Reader α) a (Spaced []) :=
    hvalue.bind hwhole
  obtain ⟨c, hc, -⟩ := hread ⟨text, 0⟩ htext
  rw [read, hc]

/-! ### Numbers and truth values -/

section Numbers

variable {bs : List UInt8}

theorem yields_digits (he : Ends tokens) (hbs : ∀ b ∈ bs, isDigit b = true) :
    Yields (At bs tokens) digits bs (Spaced tokens) := by
  rintro ⟨text, offset⟩ ⟨behind, rfl, hbehind⟩
  have hstop : behind.takeWhile isDigit = [] := by
    cases behind with
    | nil => rfl
    | cons b behind =>
      have hgoes := he.goesOn_eq_false hbehind rfl
      simp only [goesOn, Bool.or_eq_false_iff] at hgoes
      rw [List.takeWhile_cons_of_neg (by simp [hgoes])]
  have htake : (bs ++ behind).takeWhile isDigit = bs := by
    rw [List.takeWhile_append_of_pos hbs, hstop, List.append_nil]
  refine ⟨⟨behind, offset + bs.length⟩, ?_, hbehind⟩
  rw [digits, htake, Cursor.drop_eq, List.drop_left]
  simp

/-- No point and no exponent comes behind the digits. -/
theorem yields_wholeNumber (he : Ends tokens) (n : Nat) :
    Yields (Spaced tokens) (wholeNumber true n) (.natural n) (Spaced tokens) := by
  refine he.yields_peek fun b? hgoes => ?_
  split
  · exact absurd (hgoes _ rfl) (by decide)
  · exact absurd (hgoes _ rfl) (by decide)
  · exact absurd (hgoes _ rfl) (by decide)
  · exact yields_pure _

theorem yields_numeral (he : Ends tokens) (hn : n < UInt64.size) :
    Yields (At (naturalBytes n) tokens) (numeral true) (.natural n) (Spaced tokens) := by
  rcases Nat.eq_zero_or_pos n with rfl | hpos
  · -- behind a zero there must be no digit
    have hzero : naturalBytes 0 = [0x30] := by decide
    rw [hzero]
    refine yields_peek.bind ?_
    dsimp only
    rw [if_pos rfl]
    refine yields_skip.bind ?_
    rw [at_nil]
    refine he.yields_peek fun b? hgoes => ?_
    cases b? with
    | none => exact yields_wholeNumber he 0
    | some d =>
      have hdigit : ¬isDigit d = true := by
        have hd := hgoes d rfl
        simp only [goesOn, Bool.or_eq_false_iff] at hd
        simp [hd]
      dsimp only
      rw [if_neg hdigit]
      exact yields_wholeNumber he 0
  · obtain ⟨b, bs, hbytes, hb⟩ := naturalBytes_of_pos hpos
    have hdigits : ∀ d ∈ b :: bs, isDigit d = true := by
      rw [← hbytes]
      exact fun d => isDigit_of_mem_naturalBytes
    have habsorb := absorb_naturalBytes hn
    rw [hbytes] at habsorb ⊢
    refine yields_peek.bind ?_
    dsimp only
    rw [if_neg hb, if_pos (hdigits b List.mem_cons_self)]
    refine (yields_digits he hdigits).bind ?_
    rw [habsorb]
    dsimp only
    rw [if_pos rfl]
    exact yields_wholeNumber he n

/-- **A number** in the range is read. -/
theorem parses_natural {bound : Nat} (hn : n < bound) (hbound : bound ≤ UInt64.size)
    (expected : String) : Parses (natural bound expected) (.natural n) n := by
  intro tokens he
  have hnumeral := yields_numeral he (Nat.lt_of_lt_of_le hn hbound)
  have hall : ∀ b ∈ naturalBytes n, isDigit b = true := fun b => isDigit_of_mem_naturalBytes
  change Yields (Spaced (naturalBytes n :: tokens)) _ _ _
  obtain ⟨b, bs, hbytes⟩ := List.exists_cons_of_ne_nil (naturalBytes_ne_nil n)
  rw [hbytes] at hnumeral hall ⊢
  have hb : isDigit b = true := hall b List.mem_cons_self
  have hblank : isBlank b = false := by
    cases hspace : isBlank b with
    | false => rfl
    | true =>
      have hgoes := goesOn_of_isBlank hspace
      simp [goesOn, hb] at hgoes
  have hminus : b ≠ 0x2D := by
    rintro rfl
    cases hb
  refine ((yields_blank hblank).bind ?_).placed
  dsimp only
  rw [if_neg hminus, if_pos hb]
  refine hnumeral.bind ?_
  rw [Numeral.below, if_pos hn]
  exact yields_pure n

/-- **A truth value** is read. -/
theorem parses_bool (b : Bool) : Parses bool (.bool b) b := by
  intro tokens _
  have hword (first : UInt8) (rest : List UInt8) :
      Yields (At (first :: rest) tokens) (do skip; word rest; pure b) b (Spaced tokens) :=
    yields_skip.bind ((yields_word rest).bind (yields_pure b))
  cases b with
  | true => exact ((yields_blank (by decide)).bind (hword 0x74 restOfTrue)).placed
  | false => exact ((yields_blank (by decide)).bind (hword 0x66 restOfFalse)).placed

end Numbers

/-! ### Records -/

/-- The token in front of a member. -/
def comma (first : Bool) : List Token := if first then [] else [[0x2C]]

/-- The tokens of members, with a comma in front of each but the `first` of all. -/
def memberSequence (first : Bool) : List (String × Value) → List Token
  | [] => []
  | (name, value) :: members =>
    comma first ++ stringBytes name :: [0x3A] :: (value.tokens ++ memberSequence false members)

theorem commaSeparated_memberTokens (members : List (String × Value)) :
    commaSeparated (Value.memberTokens members) = memberSequence true members := by
  have hbehind : ∀ members : List (String × Value),
      (Value.memberTokens members).flatMap ([0x2C] :: ·) = memberSequence false members := by
    intro members
    induction members with
    | nil => rfl
    | cons member members ih => simp [Value.memberTokens, memberSequence, comma, ih]
  cases members with
  | nil => rfl
  | cons member members =>
    simp [Value.memberTokens, commaSeparated, memberSequence, comma, hbehind]

/-- Each member takes at least one byte. -/
theorem length_le_memberSequence (first : Bool) (members : List (String × Value)) :
    members.length ≤ (memberSequence first members).flatten.length := by
  induction members generalizing first with
  | nil => exact Nat.zero_le _
  | cons member members ih =>
    have hrest := ih false
    simp only [memberSequence, stringBytes, List.flatten_append, List.flatten_cons,
      List.length_append, List.length_cons]
    omega

/-- Behind a member comes another one, or the end. -/
theorem ends_memberSequence (members : List (String × Value)) (tokens : List Token) :
    Ends (memberSequence false members ++ [0x7D] :: tokens) := by
  cases members <;> simp [Ends, memberSequence, comma]

/-- The name of the next member is found. -/
theorem yields_hasMember (first : Bool) (name : String) :
    Yields (Spaced (comma first ++ stringBytes name :: tokens)) (hasMember first) true
      (At (stringBytes name) tokens) := by
  have hquote : Yields (Spaced (stringBytes name :: tokens)) blank (some 0x22)
      (At (stringBytes name) tokens) := yields_blank (by decide)
  cases first with
  | true => exact hquote.bind (yields_pure true)
  | false =>
    have hcomma : Yields (At [0x2C] (stringBytes name :: tokens)) skip ()
        (At [] (stringBytes name :: tokens)) := yields_skip
    rw [at_nil] at hcomma
    exact (yields_blank (by decide)).bind (hcomma.bind (hquote.bind (yields_pure true)))

/-- There are no more members. -/
theorem yields_hasMember_end (first : Bool) :
    Yields (Spaced ([0x7D] :: tokens)) (hasMember first) false (Spaced ([0x7D] :: tokens)) := by
  intro c hc
  obtain ⟨c', hblank, behind, hrest, hbehind⟩ := yields_blank (by decide) c hc
  refine ⟨c', ?_, ?_⟩
  · rw [hasMember, bind_of_ok hblank]
    rfl
  · rw [hrest]
    exact hbehind.cons_token [0x7D]

namespace Shape

variable {shape : Shape σ α} {members : List (String × Value)} {known known' : σ}

/-- The members, one after the other, take what is `known` of a record to what is known in the
end. -/
inductive Fills (shape : Shape σ α) : σ → List (String × Value) → σ → Prop
  /-- Without members nothing more is known. -/
  | nil (known : σ) : Fills shape known [] known
  /-- A member has the name of a field that is not known yet, and the value of one. -/
  | cons {name : String} {value : Value} {members : List (String × Value)} {field : Field σ}
    {known known' known'' : σ} (hfield : shape.fields.find? (·.name == name) = some field)
    (hnew : field.known known = false) (hvalue : Parses (field.read known) value known')
    (hmembers : Fills shape known' members known'') :
    Fills shape known ((name, value) :: members) known''

/-- **In which order members come does not matter**, nor whether all of them are there, if what is
`known` of a record depends on the names that were met. -/
theorem fills_of_names (known : List String → σ) {all : List (String × Value)}
    (hadd : ∀ name value, (name, value) ∈ all → ∀ names, name ∉ names →
      ∃ field, shape.fields.find? (·.name == name) = some field ∧
        field.known (known names) = false ∧
        Parses (field.read (known names)) value (known (names ++ [name])))
    (hsub : members ⊆ all) (names : List String) (hnodup : (names ++ members.map Prod.fst).Nodup) :
    shape.Fills (known names) members (known (names ++ members.map Prod.fst)) := by
  induction members generalizing names with
  | nil =>
    rw [List.map_nil, List.append_nil]
    exact .nil _
  | cons member members ih =>
    obtain ⟨name, value⟩ := member
    have happend : names ++ name :: members.map Prod.fst =
        names ++ [name] ++ members.map Prod.fst := by
      rw [List.append_assoc, List.singleton_append]
    rw [List.map_cons] at hnodup ⊢
    -- the names met so far go along, and this one is not among them
    have hnew : name ∉ names := fun hmem =>
      (List.nodup_append.1 hnodup).2.2 name hmem name List.mem_cons_self rfl
    obtain ⟨hmem, hrest⟩ := List.cons_subset.1 hsub
    obtain ⟨field, hfield, hunknown, hparses⟩ := hadd name value hmem names hnew
    rw [happend] at hnodup ⊢
    exact .cons hfield hunknown hparses (ih hrest _ hnodup)

/-- The members are read, given rounds enough. -/
theorem Fills.yields_members (h : shape.Fills known members known') {rounds : List UInt8}
    (hrounds : members.length < rounds.length) (first : Bool) :
    Yields (Spaced (memberSequence first members ++ [0x7D] :: tokens))
      (shape.members rounds first known) known' (Spaced ([0x7D] :: tokens)) := by
  induction h generalizing rounds first with
  | nil known =>
    cases rounds with
    | nil => exact absurd hrounds (Nat.not_lt_zero _)
    | cons _ rounds =>
      exact (yields_hasMember_end first).bind (yields_pure known)
  | @cons name value members field known known' known'' hfield hnew hvalue hmembers ih =>
    cases rounds with
    | nil => exact absurd hrounds (Nat.not_lt_zero _)
    | cons _ rounds =>
      have hfewer : members.length < rounds.length := by
        simpa using hrounds
      rw [memberSequence, List.append_assoc, List.cons_append, List.cons_append, List.append_assoc]
      refine (yields_hasMember first name).bind ?_
      rw [if_pos rfl]
      refine yields_skip.bind ((yields_stringBody name).bind ?_)
      -- the name is that of a field which is not known yet
      rw [hfield]
      dsimp only
      rw [hnew, if_neg Bool.false_ne_true]
      refine yields_colon.bind ?_
      exact (hvalue _ (ends_memberSequence members tokens)).bind (ih hfewer false)

/-- **A record is read** from an object whose members fill it in, in whatever order. -/
theorem parses_object {a : α} (h : shape.Fills shape.start members known)
    (hmake : shape.make known = .ok a) : Parses shape.reader (.object members) a := by
  intro tokens _
  rw [Value.tokens, commaSeparated_memberTokens, List.cons_append, List.append_assoc,
    List.singleton_append]
  refine ((yields_blank (by decide)).bind (yields_skip.bind ?_)).placed
  rw [at_nil]
  intro c hc
  -- there are as many rounds as bytes left, and one more
  have hrounds : members.length < (0 :: c.rest).length := by
    have hle := hc.flatten_sublist.length_le
    have hmembers := length_le_memberSequence true members
    rw [List.flatten_append, List.length_append] at hle
    rw [List.length_cons]
    omega
  have hbuild : Yields (Spaced ([0x7D] :: tokens)) (shape.build known) a
      (Spaced ([0x7D] :: tokens)) := by
    rw [build, hmake]
    exact yields_pure a
  exact (((h.yields_members hrounds true).bind hbuild).enclosed yields_closeObject) c hc

end Shape

end RecordRing.Json
