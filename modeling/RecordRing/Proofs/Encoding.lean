import Mathlib.Data.Nat.Basic
import RecordRing.Json.Number
import RecordRing.Json.Text
import RecordRing.Json.Value

/-!
# A text is read back as it was written

The bytes of a text are decoded to the same text again, strictly and leniently. A character has one
to four bytes, and the decoder learns from the first of them how many follow; the second is where
overlong forms and surrogates would show, and a character is neither.

Bytes that are those of some text are closed under concatenation (`IsText`), and the bytes below
`0x80` are characters by themselves, so whatever is put together of such parts is a text.

A JSON string escapes some of its bytes. Each byte that was escaped comes back as it was, so the
string is read back as well. The digits of a number make it again as long as it fits in 64 bits.

## Main definitions

* `Text.IsText` — these are the bytes of a text
* `Json.Mode.run` — the bytes of a string, as far as they do not end it

## Main results

* `Text.decode?_encode`, `Text.decodeLossy_encode` — a text is decoded to itself
* `Text.IsText.append`, `Text.isText_of_ascii` — what is a text
* `Json.run_stringByte` — a byte comes back as it was
* `Json.stringBody_stringBytes` — so does a string
* `Json.absorb_naturalBytes` — and a number
-/

namespace RecordRing

namespace Text

/-! ### One byte -/

section Bytes

variable {v : Nat}

theorem ofNat_lt_iff (hv : v < 0x100) (b : UInt8) : UInt8.ofNat v < b ↔ v < b.toNat := by
  rw [UInt8.lt_iff_toNat_lt, UInt8.toNat_ofNat_of_lt' hv]

theorem ofNat_le_iff (hv : v < 0x100) (b : UInt8) : UInt8.ofNat v ≤ b ↔ v ≤ b.toNat := by
  rw [UInt8.le_iff_toNat_le, UInt8.toNat_ofNat_of_lt' hv]

theorem le_ofNat_iff (hv : v < 0x100) (b : UInt8) : b ≤ UInt8.ofNat v ↔ b.toNat ≤ v := by
  rw [UInt8.le_iff_toNat_le, UInt8.toNat_ofNat_of_lt' hv]

theorem ofNat_eq_iff (hv : v < 0x100) (b : UInt8) : UInt8.ofNat v = b ↔ v = b.toNat := by
  rw [← UInt8.toNat_inj, UInt8.toNat_ofNat_of_lt' hv]

/-- A byte between characters that is below `0x80` is one. -/
theorem start_one (h : v < 0x80) : Decoder.start (.ofNat v) = .single (Char.ofNat v) := by
  have hv : v < 0x100 := by omega
  simp only [Decoder.start, ofNat_lt_iff hv, UInt8.toNat_ofNat_of_lt' hv, UInt8.reduceToNat]
  rw [if_pos h]

theorem start_two (hl : 0xC2 ≤ v) (hu : v < 0xE0) :
    Decoder.start (.ofNat v) = .opens ⟨v % 0x20, 0, 0x80, 0xBF⟩ := by
  have hv : v < 0x100 := by omega
  simp only [Decoder.start, ofNat_lt_iff hv, UInt8.toNat_ofNat_of_lt' hv, UInt8.reduceToNat]
  rw [if_neg (by omega), if_neg (by omega), if_pos hu]

theorem start_three (hl : 0xE0 ≤ v) (hu : v < 0xF0) :
    Decoder.start (.ofNat v) = .opens ⟨v % 0x10, 1, if v = 0xE0 then 0xA0 else 0x80,
      if v = 0xED then 0x9F else 0xBF⟩ := by
  have hv : v < 0x100 := by omega
  simp only [Decoder.start, ofNat_lt_iff hv, ofNat_eq_iff hv, UInt8.toNat_ofNat_of_lt' hv,
    UInt8.reduceToNat]
  rw [if_neg (by omega), if_neg (by omega), if_neg (by omega), if_pos hu]

theorem start_four (hl : 0xF0 ≤ v) (hu : v < 0xF5) :
    Decoder.start (.ofNat v) = .opens ⟨v % 0x08, 2, if v = 0xF0 then 0x90 else 0x80,
      if v = 0xF4 then 0x8F else 0xBF⟩ := by
  have hv : v < 0x100 := by omega
  simp only [Decoder.start, ofNat_lt_iff hv, ofNat_eq_iff hv, UInt8.toNat_ofNat_of_lt' hv,
    UInt8.reduceToNat]
  rw [if_neg (by omega), if_neg (by omega), if_neg (by omega), if_neg (by omega), if_pos hu]

end Bytes

/-! ### One character -/

/-- **A byte inside a character** adds its six low bits, if it is between the bounds. -/
theorem decodeFrom?_continue {d : Decoder} {x : Nat} (hx : x < 0x40)
    (hlow : d.low.toNat ≤ x + 0x80) (hhigh : x + 0x80 ≤ d.high.toNat) (bs : List UInt8) :
    decodeFrom? (some d) (.ofNat (x + 0x80) :: bs) =
      match d.more with
      | 0 => (decodeFrom? none bs).map (Char.ofNat (d.bits * 0x40 + x) :: ·)
      | more + 1 => decodeFrom? (some ⟨d.bits * 0x40 + x, more, 0x80, 0xBF⟩) bs := by
  have hv : x + 0x80 < 0x100 := by omega
  have haccepts : d.accepts (.ofNat (x + 0x80)) = true := by
    simp only [Decoder.accepts, Bool.and_eq_true, decide_eq_true_eq, le_ofNat_iff hv,
      ofNat_le_iff hv]
    exact ⟨hlow, hhigh⟩
  have hbits : d.bits * 0x40 + (UInt8.ofNat (x + 0x80)).toNat % 0x40 = d.bits * 0x40 + x := by
    rw [UInt8.toNat_ofNat_of_lt' hv]
    omega
  rw [decodeFrom?, if_pos haccepts, Decoder.step, hbits]
  cases d.more <;> rfl

section Characters

variable {v : Nat}

theorem decodeFrom?_two (hl : 0x80 ≤ v) (hu : v < 0x800) (bs : List UInt8) :
    decodeFrom? none (.ofNat (v / 64 % 0x20 + 0xC0) :: .ofNat (v % 0x40 + 0x80) :: bs) =
      (decodeFrom? none bs).map (Char.ofNat v :: ·) := by
  have hbits : (v / 64 % 0x20 + 0xC0) % 0x20 * 0x40 + v % 0x40 = v := by omega
  rw [decodeFrom?, start_two (by omega) (by omega)]
  dsimp only
  rw [decodeFrom?_continue (by omega) (by simp) (by simp; omega)]
  dsimp only
  rw [hbits]

/-- The bounds of the second byte keep out what two bytes are enough for, and the surrogates. -/
theorem decodeFrom?_three (hl : 0x800 ≤ v) (hu : v < 0x10000)
    (hvalid : v < 0xD800 ∨ 0xDFFF < v) (bs : List UInt8) :
    decodeFrom? none (.ofNat (v / 4096 % 0x10 + 0xE0) :: .ofNat (v / 64 % 0x40 + 0x80) ::
        .ofNat (v % 0x40 + 0x80) :: bs) =
      (decodeFrom? none bs).map (Char.ofNat v :: ·) := by
  have hbits : ((v / 4096 % 0x10 + 0xE0) % 0x10 * 0x40 + v / 64 % 0x40) * 0x40 + v % 0x40 = v := by
    omega
  rw [decodeFrom?, start_three (by omega) (by omega)]
  dsimp only
  rw [decodeFrom?_continue (by omega) (by dsimp only; split <;> simp; omega)
    (by dsimp only; split <;> simp <;> omega)]
  dsimp only
  rw [decodeFrom?_continue (by omega) (by simp) (by simp; omega)]
  dsimp only
  rw [hbits]

/-- The bounds of the second byte keep out what three bytes are enough for, and what is no
character any more. -/
theorem decodeFrom?_four (hl : 0x10000 ≤ v) (hu : v < 0x110000) (bs : List UInt8) :
    decodeFrom? none (.ofNat (v / 262144 % 0x08 + 0xF0) :: .ofNat (v / 4096 % 0x40 + 0x80) ::
        .ofNat (v / 64 % 0x40 + 0x80) :: .ofNat (v % 0x40 + 0x80) :: bs) =
      (decodeFrom? none bs).map (Char.ofNat v :: ·) := by
  have hbits : (((v / 262144 % 0x08 + 0xF0) % 0x08 * 0x40 + v / 4096 % 0x40) * 0x40
      + v / 64 % 0x40) * 0x40 + v % 0x40 = v := by omega
  rw [decodeFrom?, start_four (by omega) (by omega)]
  dsimp only
  rw [decodeFrom?_continue (by omega) (by dsimp only; split <;> simp; omega)
    (by dsimp only; split <;> simp <;> omega)]
  dsimp only
  rw [decodeFrom?_continue (by omega) (by simp) (by simp; omega)]
  dsimp only
  rw [decodeFrom?_continue (by omega) (by simp) (by simp; omega)]
  dsimp only
  rw [hbits]

end Characters

/-- **The bytes of a character are decoded to it.** -/
theorem decodeFrom?_encodeChar (c : Char) (bs : List UInt8) :
    decodeFrom? none (String.utf8EncodeChar c ++ bs) = (decodeFrom? none bs).map (c :: ·) := by
  have hc : Char.ofNat c.val.toNat = c := Char.ofNat_toNat c
  have hvalid : c.val.toNat < 0xD800 ∨ 0xDFFF < c.val.toNat ∧ c.val.toNat < 0x110000 := c.valid
  rw [String.utf8EncodeChar]
  generalize c.val.toNat = v at hc hvalid
  subst hc
  split
  · rw [List.singleton_append, decodeFrom?, start_one (by omega)]
  · split
    · exact decodeFrom?_two (by omega) (by omega) bs
    · split
      · exact decodeFrom?_three (by omega) (by omega) (by omega) bs
      · exact decodeFrom?_four (by omega) (by omega) bs

/-! ### Texts -/

theorem decodeFrom?_flatMap (cs : List Char) :
    decodeFrom? none (cs.flatMap String.utf8EncodeChar) = some cs := by
  induction cs with
  | nil => rfl
  | cons c cs ih => rw [List.flatMap_cons, decodeFrom?_encodeChar, ih, Option.map_some]

/-- **A text is decoded to itself.** -/
theorem decode?_encode (s : String) : decode? (encode s) = some s := by
  rw [decode?, encode, decodeFrom?_flatMap, Option.map_some, String.ofList_toList]

/-- There is nothing to replace in it. -/
theorem decodeLossy_encode (s : String) : decodeLossy (encode s) = s := by
  rw [decodeLossy, encode, decodeLossyFrom_of_decodeFrom? (decodeFrom?_flatMap _),
    String.ofList_toList]

/-- These are the bytes of a text. -/
def IsText (bs : List UInt8) : Prop := ∃ s : String, bs = encode s

theorem IsText.isSome_decode? {bs : List UInt8} (h : IsText bs) : (decode? bs).isSome = true := by
  obtain ⟨s, rfl⟩ := h
  rw [decode?_encode]
  rfl

theorem IsText.append {bs cs : List UInt8} (hb : IsText bs) (hc : IsText cs) :
    IsText (bs ++ cs) := by
  obtain ⟨s, rfl⟩ := hb
  obtain ⟨t, rfl⟩ := hc
  exact ⟨s ++ t, by simp [encode]⟩

theorem toNat_ofNat {v : Nat} (h : v < 0xD800) : (Char.ofNat v).val.toNat = v := by
  rw [Char.ofNat, dif_pos (Or.inl h)]
  rfl

/-- Bytes below `0x80` are characters by themselves. -/
theorem isText_of_ascii {bs : List UInt8} (h : ∀ b ∈ bs, b < 0x80) : IsText bs := by
  refine ⟨.ofList (bs.map fun b => Char.ofNat b.toNat), ?_⟩
  rw [encode, String.toList_ofList]
  induction bs with
  | nil => rfl
  | cons b bs ih =>
    have hb : b.toNat < 0x80 := UInt8.lt_iff_toNat_lt.1 (h b List.mem_cons_self)
    have hchar : (Char.ofNat b.toNat).val.toNat = b.toNat := toNat_ofNat (by omega)
    rw [List.map_cons, List.flatMap_cons, ← ih fun c hc => h c (List.mem_cons_of_mem b hc),
      String.utf8EncodeChar, hchar, if_pos (by omega), UInt8.ofNat_toNat, List.singleton_append]

end Text

/-! ### Strings -/

namespace Json

/-- The bytes that `bs` gives inside a string, and what it leaves open, if it does not end the
string. -/
def Mode.run : Mode → List UInt8 → Option (Mode × List UInt8)
  | mode, [] => some (mode, [])
  | mode, b :: bs =>
    match mode.step b with
    | .go mode bytes => (run mode bs).map fun (mode, more) => (mode, bytes ++ more)
    | .stop | .fail _ => none

theorem stringFrom_of_run {mode mode' : Mode} {bs bytes : List UInt8}
    (h : mode.run bs = some (mode', bytes)) (done rest : List UInt8) (offset : Nat) :
    stringFrom mode done (bs ++ rest) offset =
      stringFrom mode' (bytes.reverse ++ done) rest (offset + bs.length) := by
  induction bs generalizing mode bytes done offset with
  | nil =>
    obtain ⟨rfl, rfl⟩ := Prod.mk.inj (Option.some.inj h)
    rfl
  | cons b bs ih =>
    rw [Mode.run] at h
    rw [List.cons_append, stringFrom]
    cases hstep : mode.step b with
    | go next first =>
      rw [hstep] at h
      obtain ⟨⟨last, more⟩, hmore, heq⟩ := Option.map_eq_some_iff.1 h
      obtain ⟨rfl, rfl⟩ := Prod.mk.inj heq
      dsimp only
      rw [ih hmore, List.reverse_append, List.append_assoc, List.length_cons, Nat.add_assoc,
        Nat.add_comm 1]
    | stop =>
      rw [hstep] at h
      cases h
    | fail cause =>
      rw [hstep] at h
      cases h

/-- What is so of every number below 256 is so of every byte. -/
@[elab_as_elim]
theorem forall_byte {motive : UInt8 → Prop} (b : UInt8) (h : ∀ v < 0x100, motive (.ofNat v)) :
    motive b := by
  have hb := h b.toNat b.toNat_lt
  rwa [UInt8.ofNat_toNat] at hb

/-- **A byte comes back as it was**, escaped or not. -/
theorem run_stringByte (b : UInt8) : Mode.run .plain (stringByte b) = some (.plain, [b]) :=
  forall_byte b (by decide +kernel)

theorem stringFrom_stringBytes (bs done rest : List UInt8) (offset : Nat) :
    ∃ offset', stringFrom .plain done (bs.flatMap stringByte ++ 0x22 :: rest) offset =
      (.ok (done.reverse ++ bs), ⟨rest, offset'⟩) := by
  induction bs generalizing done offset with
  | nil => exact ⟨offset + 1, by simp [stringFrom, Mode.step]⟩
  | cons b bs ih =>
    obtain ⟨offset', h⟩ := ih (b :: done) (offset + (stringByte b).length)
    refine ⟨offset', ?_⟩
    rw [List.flatMap_cons, List.append_assoc, stringFrom_of_run (run_stringByte b)]
    simpa using h

/-- **A string is read back**, behind its opening quote. -/
theorem stringBody_stringBytes (s : String) (rest : List UInt8) (offset : Nat) :
    ∃ offset', stringBody ⟨(stringBytes s).tail ++ rest, offset⟩ = (.ok s, ⟨rest, offset'⟩) := by
  obtain ⟨offset', h⟩ := stringFrom_stringBytes (Text.encode s) [] rest offset
  refine ⟨offset', ?_⟩
  simp only [stringBody, stringBytes, List.cons_append, List.tail_cons, List.append_assoc,
    List.nil_append, h, List.reverse_nil, Text.decodeLossy_encode]

/-- What stands for a byte below `0x80` inside a string is of such bytes. -/
theorem lt_of_mem_stringByte {b : UInt8} (hb : b < 0x80) : ∀ c ∈ stringByte b, c < 0x80 := by
  revert hb
  exact forall_byte b (by decide +kernel)

/-- The other bytes stand for themselves. -/
theorem stringByte_of_le {b : UInt8} (hb : 0x80 ≤ b) : stringByte b = [b] := by
  revert hb
  exact forall_byte b (by decide +kernel)

/-- The bytes of the other characters are such bytes. -/
theorem le_of_mem_encodeChar {c : Char} {b : UInt8} (hc : 0x80 ≤ c.val.toNat)
    (hb : b ∈ String.utf8EncodeChar c) : 0x80 ≤ b := by
  have hform : ∃ v, 0x80 ≤ v ∧ v < 0x100 ∧ b = UInt8.ofNat v := by
    rw [String.utf8EncodeChar, if_neg (by omega)] at hb
    split at hb
    · simp only [List.mem_cons, List.not_mem_nil, or_false] at hb
      rcases hb with rfl | rfl <;> exact ⟨_, by omega, by omega, rfl⟩
    · split at hb
      · simp only [List.mem_cons, List.not_mem_nil, or_false] at hb
        rcases hb with rfl | rfl | rfl <;> exact ⟨_, by omega, by omega, rfl⟩
      · simp only [List.mem_cons, List.not_mem_nil, or_false] at hb
        rcases hb with rfl | rfl | rfl | rfl <;> exact ⟨_, by omega, by omega, rfl⟩
  obtain ⟨v, hl, hu, rfl⟩ := hform
  exact (Text.le_ofNat_iff hu _).2 hl

theorem isText_flatMap_stringByte (c : Char) :
    Text.IsText ((String.utf8EncodeChar c).flatMap stringByte) := by
  by_cases hc : c.val.toNat < 0x80
  · have hone : String.utf8EncodeChar c = [UInt8.ofNat c.val.toNat] := by
      rw [String.utf8EncodeChar, if_pos (by omega)]
    have hb : UInt8.ofNat c.val.toNat < 0x80 := (Text.ofNat_lt_iff (by omega) _).2 hc
    rw [hone, List.flatMap_singleton]
    exact Text.isText_of_ascii (lt_of_mem_stringByte hb)
  · have hbytes : ∀ b ∈ String.utf8EncodeChar c, stringByte b = [b] := fun b hb =>
      stringByte_of_le (le_of_mem_encodeChar (Nat.le_of_not_lt hc) hb)
    have hself : (String.utf8EncodeChar c).flatMap stringByte = String.utf8EncodeChar c := by
      rw [List.flatMap_def, List.map_congr_left hbytes, ← List.flatMap_def]
      exact List.flatMap_singleton' _
    rw [hself]
    exact ⟨String.singleton c, by simp [Text.encode]⟩

/-- The bytes of a string in quotes are a text. -/
theorem isText_stringBytes (s : String) : Text.IsText (stringBytes s) := by
  have hquote : Text.IsText [0x22] := Text.isText_of_ascii (by simp)
  have hbody : Text.IsText ((Text.encode s).flatMap stringByte) := by
    rw [Text.encode, List.flatMap_assoc]
    induction s.toList with
    | nil => exact ⟨"", rfl⟩
    | cons c cs ih =>
      rw [List.flatMap_cons]
      exact (isText_flatMap_stringByte c).append ih
  exact (hquote.append hbody).append hquote

/-! ### Numbers -/

section Numbers

variable {n : Nat}

theorem naturalBytes_of_lt (h : n < 10) : naturalBytes n = [UInt8.ofNat (n + 0x30)] := by
  rw [naturalBytes, Nat.toDigits_of_lt_base h, List.map_singleton]
  decide +revert

theorem naturalBytes_of_le (h : 10 ≤ n) :
    naturalBytes n = naturalBytes (n / 10) ++ [UInt8.ofNat (n % 10 + 0x30)] := by
  have hlast := naturalBytes_of_lt (Nat.mod_lt n (by decide : 0 < 10))
  rw [naturalBytes, Nat.toDigits_of_lt_base (Nat.mod_lt n (by decide))] at hlast
  rw [← hlast, naturalBytes, Nat.toDigits_of_base_le (by decide) h, List.map_append, naturalBytes]

theorem isDigit_ofNat (h : n < 10) : isDigit (UInt8.ofNat (n + 0x30)) = true := by
  decide +revert

theorem digitValue_ofNat (h : n < 10) : digitValue (UInt8.ofNat (n + 0x30)) = n := by
  decide +revert

theorem isDigit_of_mem_naturalBytes {b : UInt8} (hb : b ∈ naturalBytes n) : isDigit b = true := by
  induction n using Nat.strongRecOn with
  | ind n ih =>
    rcases Nat.lt_or_ge n 10 with h | h
    · rw [naturalBytes_of_lt h] at hb
      rw [List.mem_singleton.1 hb]
      exact isDigit_ofNat h
    · rw [naturalBytes_of_le h] at hb
      rcases List.mem_append.1 hb with hb | hb
      · exact ih (n / 10) (by omega) hb
      · rw [List.mem_singleton.1 hb]
        exact isDigit_ofNat (Nat.mod_lt n (by decide))

theorem naturalBytes_ne_nil (n : Nat) : naturalBytes n ≠ [] := by
  rw [naturalBytes, Ne, List.map_eq_nil_iff]
  exact Nat.toDigits_ne_nil

/-- Only zero starts with a zero. -/
theorem naturalBytes_of_pos (hn : 0 < n) : ∃ b bs, naturalBytes n = b :: bs ∧ b ≠ 0x30 := by
  induction n using Nat.strongRecOn with
  | ind n ih =>
    rcases Nat.lt_or_ge n 10 with h | h
    · have hall : ∀ m < 10, 0 < m → UInt8.ofNat (m + 0x30) ≠ 0x30 := by decide
      exact ⟨_, [], naturalBytes_of_lt h, hall n h hn⟩
    · obtain ⟨b, bs, hbytes, hb⟩ := ih (n / 10) (by omega) (by omega)
      exact ⟨b, _, by rw [naturalBytes_of_le h, hbytes, List.cons_append], hb⟩

theorem absorb_append {significand value : Nat} {found : List UInt8}
    (h : absorb significand found = (value, found.length)) (more : List UInt8) :
    absorb significand (found ++ more) =
      ((absorb value more).1, found.length + (absorb value more).2) := by
  induction found generalizing significand with
  | nil =>
    cases h
    simp
  | cons b found ih =>
    rw [absorb] at h
    rw [List.cons_append, absorb]
    dsimp only at h ⊢
    split at h
    · next hsize =>
      have hvalue := (Prod.mk.inj h).1
      have hcount := (Prod.mk.inj h).2
      rw [if_pos hsize, ih (Prod.ext hvalue (by simpa using hcount))]
      simp only [List.length_cons]
      congr 1
      omega
    · cases h

/-- **The digits of a number make it again**, if it fits in 64 bits. -/
theorem absorb_naturalBytes (hn : n < UInt64.size) :
    absorb 0 (naturalBytes n) = (n, (naturalBytes n).length) := by
  induction n using Nat.strongRecOn with
  | ind n ih =>
    rcases Nat.lt_or_ge n 10 with h | h
    · rw [naturalBytes_of_lt h, absorb, digitValue_ofNat h]
      simp [hn, absorb]
    · have hvalue : n / 10 * 10 + n % 10 = n := Nat.div_add_mod' n 10
      rw [naturalBytes_of_le h, absorb_append (ih (n / 10) (by omega) (by omega)), absorb,
        digitValue_ofNat (Nat.mod_lt n (by decide)), hvalue]
      simp [hn, absorb]

end Numbers

end Json

end RecordRing
