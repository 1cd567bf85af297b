import RecordRing.Assembler
import RecordRing.Proofs.Pieces

/-!
# What one call does to an assembler

An assembler takes bytes in at one end and gives records out at the other. `Assembler.Advances`
is the account of this: from one state, so many bytes taken in and so many records cut lead to
another state, the records are pieces, and no byte is lost or moved. Accounts of calls one after the
other add up (`Advances.trans`), so whatever mixture of calls a run is made of, its account is of
the same form.

A refused call is no exception: it leads back to the state it started from.

## Two points of the search

The bytes known to hold no terminator are not searched again, so what a search finds is the first
terminator only in an assembler that is `Valid`. And a search that finds none leaves an assembler
whose buffered bytes are an unterminated rest; this is when the account fixes the records
(`Advances.isCut`).

## Main definitions

* `Assembler.Valid` — what the buffer and the count of searched bytes keep to
* `Assembler.Advances` — the account of any number of calls

## Main results

* `Assembler.Valid.feed_cases`, `Valid.pop_cases` — feeding and popping
* `Assembler.Valid.popAll_advances` — popping until no record is left or memory is refused
* `Assembler.Advances.append_pieces` — the records are the first pieces
* `Assembler.Advances.isCut`, `Advances.unique` — once no terminator is left, the records are the
  pieces, and so the bytes fix them
-/

namespace RecordRing

variable {grants : Allocator}

/-! ### Memory -/

theorem Buffer.fresh?_generous (purpose : Purpose) (len : Nat) :
    Buffer.fresh? .generous purpose len = some (.withCapacity len) := by
  simp [Buffer.fresh?, Allocator.generous]

theorem Buffer.isSome_reserve?_generous (b : Buffer) (more : Nat) :
    (b.reserve? .generous more).isSome = true := by
  rw [Buffer.reserve?]
  split <;> rfl

theorem Buffer.isSome_reserveExact?_generous (b : Buffer) (more : Nat) :
    (b.reserveExact? .generous more).isSome = true := by
  rw [Buffer.reserveExact?]
  split <;> rfl

/-- A buffer without bytes is not kept. -/
theorem Buffer.nonempty?_ne (b : Buffer) : b.nonempty?.map Buffer.bytes ≠ some [] := by
  rw [Buffer.nonempty?]
  split
  · simp
  · next h => simpa [Buffer.bytes_eq_nil_iff] using h

theorem Buffer.nonempty?_getD (b : Buffer) : (b.nonempty?.map Buffer.bytes).getD [] = b.bytes := by
  rw [Buffer.nonempty?]
  split
  · next h => exact (Buffer.bytes_eq_nil_iff.2 h).symm
  · rfl

namespace Assembler

variable {a b : Assembler} {chunk : List UInt8}

/-! ### Valid states -/

/-- There is no buffer without bytes, and the bytes that count as searched hold no terminator. -/
structure Valid (a : Assembler) : Prop where
  /-- There is no empty buffer. -/
  pending?_ne : a.pending? ≠ some []
  /-- Only buffered bytes count as searched. -/
  scanned_le : a.scanned ≤ a.held.length
  /-- Those bytes hold no terminator. -/
  notMem_scanned : a.terminator ∉ a.held.take a.scanned

theorem valid_new (t : UInt8) : (new t).Valid where
  pending?_ne := by simp [new, pending?]
  scanned_le := Nat.zero_le _
  notMem_scanned := by simp

/-- Where nothing counts as searched, only the buffer matters. -/
theorem valid_of_scanned_eq_zero (hp : a.pending? ≠ some []) (hs : a.scanned = 0) : a.Valid where
  pending?_ne := hp
  scanned_le := by omega
  notMem_scanned := by simp [hs]

/-- Where no terminator is buffered, all bytes may count as searched. -/
theorem valid_of_notMem (hp : a.pending? ≠ some []) (hs : a.scanned ≤ a.held.length)
    (hnot : a.terminator ∉ a.held) : a.Valid where
  pending?_ne := hp
  scanned_le := hs
  notMem_scanned := fun h => hnot (List.mem_of_mem_take h)

/-- A valid assembler has a buffer exactly if it has bytes. -/
theorem Valid.pending?_eq (hv : a.Valid) :
    a.pending? = if a.held = [] then none else some a.held := by
  have hne := hv.pending?_ne
  rw [held]
  cases h : a.pending? with
  | none => rfl
  | some bs =>
    rw [h] at hne
    rw [Option.getD_some, if_neg fun hbs => hne (congrArg some hbs)]

theorem held_eq_take_append (a : Assembler) : a.held = a.held.take a.scanned ++ a.unscanned := by
  rw [unscanned_eq_drop, List.take_append_drop]

/-! ### The search -/

theorem cutEnd?_nil (a : Assembler) :
    a.cutEnd? [] = (a.unscanned.findIdx? (· == a.terminator)).map (a.scanned + · + 1) := by
  rw [cutEnd?]
  cases a.unscanned.findIdx? (· == a.terminator) <;> rfl

/-- **A search misses no terminator.** -/
theorem Valid.cutEnd?_eq_none_iff (hv : a.Valid) :
    a.cutEnd? chunk = none ↔ a.terminator ∉ a.held ++ chunk := by
  have hheld : a.terminator ∈ a.held ↔ a.terminator ∈ a.unscanned := by
    rw [held_eq_take_append a, List.mem_append, or_iff_right hv.notMem_scanned]
  rw [List.mem_append, not_or, hheld]
  rw [cutEnd?]
  cases h : a.unscanned.findIdx? (· == a.terminator) with
  | none =>
    exact Option.map_eq_none_iff.trans (findIdx?_beq_eq_none_iff.trans
      (and_iff_right (findIdx?_beq_eq_none_iff.1 h)).symm)
  | some found =>
    have hmem : a.terminator ∈ a.unscanned :=
      List.mem_of_mem_take (isPiece_take_of_findIdx? h).1.mem
    exact iff_of_false (by simp) fun hnot => hnot.1 hmem

theorem Valid.hasComplete_iff (hv : a.Valid) : a.hasComplete = true ↔ a.terminator ∈ a.held := by
  have hnone : a.cutEnd? [] = none ↔ a.terminator ∉ a.held := by
    rw [hv.cutEnd?_eq_none_iff, List.append_nil]
  rw [hasComplete, ← Decidable.not_iff_not, ← hnone]
  simp

theorem Valid.completesWith_iff (hv : a.Valid) :
    a.completesWith chunk = true ↔ chunk ≠ [] ∧ a.terminator ∈ a.held ++ chunk := by
  have hsome : (a.cutEnd? chunk).isSome = true ↔ a.terminator ∈ a.held ++ chunk := by
    rw [Option.isSome_iff_ne_none, Ne, hv.cutEnd?_eq_none_iff, Decidable.not_not]
  rw [completesWith, Bool.and_eq_true, hsome, Bool.not_eq_true', List.isEmpty_eq_false_iff]

/-- **A search finds the first terminator**: what it marks off is a piece. -/
theorem Valid.isPiece_of_cutEnd? (hv : a.Valid) {stop : Nat} (h : a.cutEnd? chunk = some stop) :
    IsPiece a.terminator ((a.held ++ chunk).take stop) := by
  rw [cutEnd?] at h
  cases hfind : a.unscanned.findIdx? (· == a.terminator) with
  | some found =>
    rw [hfind] at h
    obtain rfl : a.scanned + found + 1 = stop := Option.some.inj h
    obtain ⟨hpiece, hlt⟩ := isPiece_take_of_findIdx? hfind
    have hle : a.scanned + (found + 1) ≤ a.held.length := by
      rw [unscanned_eq_drop, List.length_drop] at hlt
      omega
    rw [Nat.add_assoc, List.take_append_of_le_length hle, List.take_add, ← unscanned_eq_drop]
    exact hpiece.append_left hv.notMem_scanned
  | none =>
    have hnot : a.terminator ∉ a.held := by
      have hnone : a.cutEnd? [] = none := by rw [cutEnd?_nil, hfind]; rfl
      rw [hv.cutEnd?_eq_none_iff, List.append_nil] at hnone
      exact hnone
    rw [hfind] at h
    obtain ⟨found, hchunk, rfl⟩ := Option.map_eq_some_iff.1 h
    obtain ⟨hpiece, hlt⟩ := isPiece_take_of_findIdx? hchunk
    rw [Nat.add_assoc, heldSize_eq_length, List.take_length_add_append]
    exact hpiece.append_left hnot

/-! ### Accounts -/

/-- From `a`, taking `input` in and cutting `rs` leads to `b`. -/
structure Advances (a : Assembler) (input : List UInt8) (rs : List Record) (b : Assembler) :
    Prop where
  /-- The state reached is valid. -/
  valid : b.Valid
  /-- The terminator stays. -/
  terminator_eq : b.terminator = a.terminator
  /-- Every record is a piece. -/
  isPiece : ∀ r ∈ rs, IsPiece a.terminator r.bytes
  /-- Every byte is in the records or still buffered, in its order. -/
  concat_append : concat rs ++ b.held = a.held ++ input

theorem Advances.refl (hv : a.Valid) : a.Advances [] [] a where
  valid := hv
  terminator_eq := rfl
  isPiece := by simp
  concat_append := (List.append_nil _).symm

/-- **Accounts add up.** -/
theorem Advances.trans {c : Assembler} {input input' : List UInt8} {rs rs' : List Record}
    (h : a.Advances input rs b) (h' : b.Advances input' rs' c) :
    a.Advances (input ++ input') (rs ++ rs') c where
  valid := h'.valid
  terminator_eq := h'.terminator_eq.trans h.terminator_eq
  isPiece := by
    have hrs' : ∀ r ∈ rs', IsPiece a.terminator r.bytes := h.terminator_eq ▸ h'.isPiece
    exact List.forall_mem_append.2 ⟨h.isPiece, hrs'⟩
  concat_append := by
    rw [RecordRing.concat_append, List.append_assoc, h'.concat_append, ← List.append_assoc,
      h.concat_append, List.append_assoc]

/-- **The records are the first pieces**, and the others are still buffered. -/
theorem Advances.append_pieces {input : List UInt8} {rs : List Record} (h : a.Advances input rs b) :
    rs.map Record.bytes ++ pieces a.terminator b.held = pieces a.terminator (a.held ++ input) := by
  have hpieces : ∀ p ∈ rs.map Record.bytes, IsPiece a.terminator p :=
    List.forall_mem_map.2 h.isPiece
  have hflat : (rs.map Record.bytes).flatten = concat rs := (List.flatMap_def ..).symm
  rw [← pieces_flatten_append hpieces, hflat, h.concat_append]

/-- **Once no terminator is buffered, the account fixes the records**: they are the pieces of all
the bytes that there were, and what is buffered is their remainder. -/
theorem Advances.isCut {input : List UInt8} {rs : List Record} (h : a.Advances input rs b)
    (hnot : a.terminator ∉ b.held) :
    IsCut a.terminator (a.held ++ input) (rs.map Record.bytes) b.held where
  flatten_append := by
    rw [← List.flatMap_def]
    exact h.concat_append
  isPiece := List.forall_mem_map.2 h.isPiece
  notMem := hnot

theorem Advances.eq_pieces {input : List UInt8} {rs : List Record} (h : a.Advances input rs b)
    (hnot : a.terminator ∉ b.held) :
    rs = (pieces a.terminator (a.held ++ input)).map .ofList ∧
      b.held = remainder a.terminator (a.held ++ input) := by
  have hcut := h.isCut hnot
  refine ⟨?_, hcut.eq_remainder⟩
  rw [← hcut.eq_pieces, List.map_map]
  exact (List.map_id rs).symm

/-- So two accounts of the same bytes are of the same records, and leave the same bytes buffered. -/
theorem Advances.unique {b' : Assembler} {input : List UInt8} {rs rs' : List Record}
    (h : a.Advances input rs b) (h' : a.Advances input rs' b') (hnot : a.terminator ∉ b.held)
    (hnot' : a.terminator ∉ b'.held) : rs = rs' ∧ b.pending? = b'.pending? := by
  have hcut := h.isCut hnot
  have hcut' := h'.isCut hnot'
  have hbytes : rs.map Record.bytes = rs'.map Record.bytes :=
    hcut.eq_pieces.trans hcut'.eq_pieces.symm
  have hheld : b.held = b'.held := hcut.eq_remainder.trans hcut'.eq_remainder.symm
  refine ⟨(List.map_inj_right fun _ _ => Record.eq_iff_bytes_eq.2).1 hbytes, ?_⟩
  rw [h.valid.pending?_eq, h'.valid.pending?_eq, hheld]

/-! ### Feeding -/

/-- The state behind a cut: the rest is buffered, and nothing of it was searched. -/
theorem advances_cut {r : Record} {rest : Buffer} {stop : Nat}
    (hpiece : IsPiece a.terminator ((a.held ++ chunk).take stop))
    (hr : r.bytes = (a.held ++ chunk).take stop)
    (hrest : rest.bytes = (a.held ++ chunk).drop stop) :
    a.Advances chunk [r] { a with pending := rest.nonempty?, scanned := 0 } where
  valid := valid_of_scanned_eq_zero rest.nonempty?_ne rfl
  terminator_eq := rfl
  isPiece := by simpa [hr] using hpiece
  concat_append := by
    have hheld : held { a with pending := rest.nonempty?, scanned := 0 } = rest.bytes :=
      rest.nonempty?_getD
    rw [hheld, concat_cons, concat_nil, List.append_nil, hr, hrest, List.take_append_drop]

theorem append_cases (hv : a.Valid) (grants : Allocator) (hne : chunk ≠ [])
    (hnot : a.terminator ∉ a.held ++ chunk) :
    (∃ e, a.append grants chunk = (a, .error e)) ∨
      ∃ b, a.append grants chunk = (b, .ok none) ∧ a.Advances chunk [] b := by
  have hbytes : (a.pending.getD .empty).bytes = a.held := by
    rw [held, pending?]
    cases a.pending <;> rfl
  have hsame : (a.pending.getD .empty).nonempty? = a.pending := by
    have := hv.pending?_ne
    rw [pending?] at this
    cases h : a.pending with
    | none => rfl
    | some buffer =>
      rw [h, Option.map_some, Ne, Option.some.injEq, Buffer.bytes_eq_nil_iff] at this
      exact if_neg this
  rw [append]
  dsimp only
  cases h : (a.pending.getD .empty).reserve? grants chunk.length with
  | none => exact .inl ⟨_, by rw [hsame]⟩
  | some buffer =>
    have hheld : held ⟨a.terminator, some (buffer.extend chunk), (buffer.extend chunk).size⟩
        = a.held ++ chunk := by
      rw [← hbytes, ← Buffer.bytes_of_reserve? h, ← Buffer.bytes_extend]
      rfl
    refine .inr ⟨_, rfl, ?_, rfl, by simp, (List.nil_append _).trans hheld⟩
    refine valid_of_notMem ?_ ?_ (hheld.symm ▸ hnot)
    · simpa [pending?] using fun _ => hne
    · rw [← heldSize_eq_length]
      exact Nat.le_refl _

theorem bytes_of_recordBuffer? {more : Nat} {whole : Buffer}
    (h : a.recordBuffer? grants more = some whole) : whole.bytes = a.held := by
  rw [recordBuffer?] at h
  rw [held, pending?]
  cases hp : a.pending with
  | none =>
    rw [hp] at h
    exact Buffer.bytes_of_fresh? h
  | some buffer =>
    rw [hp] at h
    exact Buffer.bytes_of_reserveExact? h

/-- Wherever the division falls, in the buffer or in the chunk, it is one of the two together. -/
theorem bytes_divide (chunk : List UInt8) (whole : Buffer) {rest : Buffer}
    (hrest : rest.bytes = []) (stop : Nat) :
    (divide whole rest chunk stop).1.bytes = (whole.bytes ++ chunk).take stop ∧
      (divide whole rest chunk stop).2.bytes = (whole.bytes ++ chunk).drop stop := by
  rw [divide]
  split
  · next hle =>
    rw [← Buffer.length_bytes] at hle
    rw [Buffer.bytes_truncate, Buffer.bytes_extend, Buffer.extendFrom_eq_extend,
      Buffer.bytes_extend, hrest, List.take_append_of_le_length hle,
      List.drop_append_of_le_length hle]
    exact ⟨rfl, rfl⟩
  · next hlt =>
    rw [← Buffer.length_bytes] at hlt ⊢
    rw [Buffer.bytes_extend, Buffer.bytes_extend, hrest, List.take_append, List.drop_append,
      List.take_of_length_le (Nat.le_of_not_le hlt), List.drop_of_length_le (Nat.le_of_not_le hlt)]
    exact ⟨rfl, rfl⟩

theorem cut_cases (hv : a.Valid) (grants : Allocator) {stop : Nat}
    (hstop : a.cutEnd? chunk = some stop) :
    (∃ e, a.cut grants chunk stop = (a, .error e)) ∨
      ∃ b r, a.cut grants chunk stop = (b, .ok (some r)) ∧ a.Advances chunk [r] b := by
  rw [cut]
  dsimp only
  cases hrest : Buffer.fresh? grants .carry (a.heldSize + chunk.length - stop) with
  | none => exact .inl ⟨_, rfl⟩
  | some rest =>
    cases hwhole : a.recordBuffer? grants (stop - a.heldSize) with
    | none => exact .inl ⟨_, rfl⟩
    | some whole =>
      obtain ⟨hrecord, hrest'⟩ :=
        bytes_divide chunk whole (Buffer.bytes_of_fresh? hrest) stop
      rw [bytes_of_recordBuffer? hwhole] at hrecord hrest'
      exact .inr ⟨_, .ofList (divide whole rest chunk stop).1.bytes, rfl,
        advances_cut (hv.isPiece_of_cutEnd? hstop) hrecord hrest'⟩

/-- **What feeding does**: a refusal changes nothing; else the chunk is taken in, and a record is
cut exactly if one was to be expected. -/
theorem Valid.feed_cases (hv : a.Valid) (grants : Allocator) (chunk : List UInt8) :
    (∃ e, a.feed grants chunk = (a, .error e)) ∨
      (∃ b, a.feed grants chunk = (b, .ok none) ∧ a.completesWith chunk = false ∧
        a.Advances chunk [] b ∧ (chunk ≠ [] → a.terminator ∉ b.held)) ∨
      ∃ b r, a.feed grants chunk = (b, .ok (some r)) ∧ a.completesWith chunk = true ∧
        a.Advances chunk [r] b := by
  rw [feed, completesWith]
  cases hchunk : chunk.isEmpty with
  | true =>
    obtain rfl : chunk = [] := List.isEmpty_iff.1 hchunk
    exact .inr (.inl ⟨a, rfl, rfl, .refl hv, absurd rfl⟩)
  | false =>
    have hne : chunk ≠ [] := List.isEmpty_eq_false_iff.1 hchunk
    rw [if_neg (by simp)]
    cases hstop : a.cutEnd? chunk with
    | none =>
      have hnot : a.terminator ∉ a.held ++ chunk := hv.cutEnd?_eq_none_iff.1 hstop
      rcases append_cases hv grants hne hnot with ⟨e, h⟩ | ⟨b, h, hadv⟩
      · exact .inl ⟨e, h⟩
      · have hheld : b.held = a.held ++ chunk := hadv.concat_append
        exact .inr (.inl ⟨b, h, rfl, hadv, fun _ => hheld.symm ▸ hnot⟩)
    | some stop =>
      rcases cut_cases hv grants hstop with ⟨e, h⟩ | ⟨b, r, h, hadv⟩
      · exact .inl ⟨e, h⟩
      · exact .inr (.inr ⟨b, r, h, rfl, hadv⟩)

/-! ### Popping -/

/-- Popping searches as feeding nothing does. -/
theorem pop_eq (grants : Allocator) (a : Assembler) :
    a.pop grants =
      match a.pending, a.cutEnd? [] with
      | none, _ => (a, .ok none)
      | some buffer, none => ({ a with scanned := buffer.size }, .ok none)
      | some buffer, some stop =>
        match Buffer.fresh? grants .carry (buffer.size - stop) with
        | none => (a, .error (.outOfMemory (buffer.size - stop) .refused))
        | some rest =>
          ({ a with pending := (rest.extendFrom buffer stop).nonempty?, scanned := 0 },
            .ok (some (.ofList (buffer.bytes.take stop)))) := by
  rw [cutEnd?_nil]
  rw [pop]
  cases a.pending with
  | none => rfl
  | some buffer => cases a.unscanned.findIdx? (· == a.terminator) <;> rfl

/-- **What popping does**: a refusal changes nothing; else a record is cut exactly if one is
buffered. -/
theorem Valid.pop_cases (hv : a.Valid) (grants : Allocator) :
    (∃ e, a.pop grants = (a, .error e)) ∨
      (∃ b, a.pop grants = (b, .ok none) ∧ a.Advances [] [] b ∧ a.terminator ∉ b.held) ∨
      ∃ b r, a.pop grants = (b, .ok (some r)) ∧ a.Advances [] [r] b := by
  rw [pop_eq]
  cases hp : a.pending with
  | none =>
    have hheld : a.held = [] := by simp [held, pending?, hp]
    exact .inr (.inl ⟨a, rfl, .refl hv, by simp [hheld]⟩)
  | some buffer =>
    have hheld : a.held = buffer.bytes := by simp [held, pending?, hp]
    cases hstop : a.cutEnd? [] with
    | none =>
      have hnot : a.terminator ∉ a.held := by
        simpa using hv.cutEnd?_eq_none_iff.1 hstop
      have hsearched : held ⟨a.terminator, some buffer, buffer.size⟩ = a.held := hheld.symm
      refine .inr (.inl ⟨⟨a.terminator, some buffer, buffer.size⟩, rfl, ⟨?_, rfl, by simp, ?_⟩, ?_⟩)
      · refine valid_of_notMem ?_ ?_ (hsearched.symm ▸ hnot)
        · have := hv.pending?_ne
          rwa [pending?, hp] at this
        · exact Nat.le_of_eq (by rw [hsearched, hheld, Buffer.length_bytes])
      · rw [hsearched, concat_nil, List.nil_append, List.append_nil]
      · rwa [hsearched]
    | some stop =>
      dsimp only
      cases hrest : Buffer.fresh? grants .carry (buffer.size - stop) with
      | none => exact .inl ⟨_, rfl⟩
      | some rest =>
        refine .inr (.inr ⟨_, .ofList (buffer.bytes.take stop), rfl,
          advances_cut (hv.isPiece_of_cutEnd? hstop) ?_ ?_⟩)
        · rw [List.append_nil, hheld, Record.bytes_ofList]
        · rw [List.append_nil, hheld, Buffer.extendFrom_eq_extend, Buffer.bytes_extend,
            Buffer.bytes_of_fresh? hrest, List.nil_append]

/-- A record that was cut makes the buffer shorter. -/
theorem Advances.length_lt {r : Record} (h : a.Advances [] [r] b) :
    b.held.length < a.held.length := by
  have hlen := congrArg List.length h.concat_append
  have hr : r.bytes.length ≠ 0 :=
    mt List.length_eq_zero_iff.1 (h.isPiece r List.mem_cons_self).ne_nil
  simp only [concat_cons, concat_nil, List.append_nil, List.length_append] at hlen
  omega

/-- Popping so many times goes on until no record is left or memory is refused: each record takes a
byte of the buffer with it. -/
theorem Valid.popUpTo_cases (hv : a.Valid) (grants : Allocator) {count : Nat}
    (hcount : a.held.length < count) :
    a.Advances [] (popUpTo grants count a).2.1 (popUpTo grants count a).1 ∧
      ((popUpTo grants count a).2.2 = none → a.terminator ∉ (popUpTo grants count a).1.held) := by
  induction count generalizing a with
  | zero => exact absurd hcount (Nat.not_lt_zero _)
  | succ count ih =>
    rw [popUpTo]
    rcases hv.pop_cases grants with ⟨e, h⟩ | ⟨b, h, hadv, hnot⟩ | ⟨b, r, h, hadv⟩
    · rw [h]
      exact ⟨.refl hv, nofun⟩
    · rw [h]
      exact ⟨hadv, fun _ => hnot⟩
    · obtain ⟨hrest, hdone⟩ := ih hadv.valid (by have := hadv.length_lt; omega)
      rw [h]
      exact ⟨hadv.trans hrest, hadv.terminator_eq ▸ hdone⟩

/-- **Popping everything** has an account, also where it stops for lack of memory. -/
theorem Valid.popAll_advances (hv : a.Valid) (grants : Allocator) :
    a.Advances [] (a.popAll grants).2.1 (a.popAll grants).1 :=
  (hv.popUpTo_cases grants (heldSize_eq_length a ▸ Nat.lt_succ_self _)).1

/-- Unless memory is refused, no record is left. -/
theorem Valid.notMem_popAll (hv : a.Valid) (grants : Allocator)
    (h : (a.popAll grants).2.2 = none) : a.terminator ∉ (a.popAll grants).1.held :=
  (hv.popUpTo_cases grants (heldSize_eq_length a ▸ Nat.lt_succ_self _)).2 h

/-! ### Enough memory -/

theorem feed_generous (a : Assembler) (chunk : List UInt8) :
    ∃ b first, a.feed .generous chunk = (b, .ok first) := by
  rw [feed]
  split
  · exact ⟨a, none, rfl⟩
  · cases a.cutEnd? chunk with
    | none =>
      obtain ⟨buffer, h⟩ := Option.isSome_iff_exists.1
        (Buffer.isSome_reserve?_generous (a.pending.getD .empty) chunk.length)
      simp only [append, h]
      exact ⟨_, _, rfl⟩
    | some stop =>
      have hwhole : (a.recordBuffer? .generous (stop - a.heldSize)).isSome = true := by
        rw [recordBuffer?]
        split
        · exact Buffer.isSome_reserveExact?_generous _ _
        · rw [Buffer.fresh?_generous]; rfl
      obtain ⟨whole, h⟩ := Option.isSome_iff_exists.1 hwhole
      simp only [cut, h, Buffer.fresh?_generous]
      exact ⟨_, _, rfl⟩

theorem pop_generous (a : Assembler) : ∃ b first, a.pop .generous = (b, .ok first) := by
  rw [pop_eq]
  simp only [Buffer.fresh?_generous]
  split <;> exact ⟨_, _, rfl⟩

theorem popUpTo_generous (count : Nat) (a : Assembler) :
    (popUpTo .generous count a).2.2 = none := by
  induction count generalizing a with
  | zero => rfl
  | succ count ih =>
    rw [popUpTo]
    obtain ⟨b, first, h⟩ := pop_generous a
    rw [h]
    cases first with
    | none => rfl
    | some r => exact ih b

theorem popAll_generous (a : Assembler) : (a.popAll .generous).2.2 = none :=
  popUpTo_generous _ a

end Assembler

end RecordRing
