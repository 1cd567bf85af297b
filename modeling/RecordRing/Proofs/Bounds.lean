import RecordRing.Proofs.Refusal

/-!
# Slices and copies stay inside

An assembler searches its bytes from the count of searched bytes on, cuts them at the end that the
search found, and copies what is behind the cut into a buffer that it reserved before. Each of these
steps has a condition: a slice starts inside its bytes, a difference is not below zero, and a copy
goes into room that is there, so that no memory is asked for once bytes are moved.

None of the conditions shows in the definitions. A slice from behind the end is empty, a difference
below zero is zero, and a buffer that is copied into grows with what it is given. The checked calls
below fail where a condition is broken. That they never fail, and else do what the calls do, is what
the invariant of an assembler is for: only buffered bytes count as searched, those hold no
terminator, and there is no buffer without bytes.

## Main definitions

* `Checked.from?`, `Checked.upTo?`, `Checked.difference?`, `Checked.copyIn?` — the checked steps
* `Checked.cutEnd?`, `Checked.feed?`, `Checked.pop?` — the calls made of them

## Main results

* `Buffer.size_add_le_of_reserve?` and the others — what was reserved is there
* `checked_divide` — the buffers of a cut have room for what is copied into them
* `Valid.checked_feed`, `Valid.checked_pop` — the checked calls never fail
* `Reachable.within_bounds` — the invariant of every assembler there is, and what follows
-/

namespace RecordRing

variable {grants : Allocator}

/-! ### Room that was reserved -/

namespace Buffer

variable {b c : Buffer} {more : Nat}

theorem eq_withCapacity_of_fresh? {purpose : Purpose} {len : Nat}
    (h : fresh? grants purpose len = some b) : b = withCapacity len := by
  rw [fresh?] at h
  split at h <;> cases h
  rfl

theorem size_add_le_of_reserve? (h : b.reserve? grants more = some c) (hmore : 0 < more) :
    c.size + more ≤ c.capacity := by
  rw [reserve?] at h
  split at h
  · next hroom =>
    cases h
    rw [room] at hroom
    omega
  · split at h <;> cases h
    simp only [grownCapacity]
    omega

theorem size_add_le_of_reserveExact? (h : b.reserveExact? grants more = some c)
    (hmore : 0 < more) : c.size + more ≤ c.capacity := by
  rw [reserveExact?] at h
  split at h
  · next hroom =>
    cases h
    rw [room] at hroom
    omega
  · split at h <;> cases h
    exact Nat.le_refl _

end Buffer

namespace Assembler

variable {t : UInt8} {a : Assembler} {chunk : List UInt8}

/-! ### Checked steps -/

namespace Checked

/-- The bytes from place `i` on; fails behind the end. -/
def from? (bs : List UInt8) (i : Nat) : Option (List UInt8) :=
  if i ≤ bs.length then some (bs.drop i) else none

/-- The bytes in front of place `i`; fails behind the end. -/
def upTo? (bs : List UInt8) (i : Nat) : Option (List UInt8) :=
  if i ≤ bs.length then some (bs.take i) else none

/-- What is left of `x` when `y` is taken off; fails below zero. -/
def difference? (x y : Nat) : Option Nat := if y ≤ x then some (x - y) else none

/-- Copy `bs` in; fails if memory would have to be asked for. -/
def copyIn? (b : Buffer) (bs : List UInt8) : Option Buffer :=
  if b.size + bs.length ≤ b.capacity then some (b.extend bs) else none

theorem from?_eq {bs : List UInt8} {i : Nat} (h : i ≤ bs.length) :
    from? bs i = some (bs.drop i) := if_pos h

theorem upTo?_eq {bs : List UInt8} {i : Nat} (h : i ≤ bs.length) :
    upTo? bs i = some (bs.take i) := if_pos h

theorem difference?_eq {x y : Nat} (h : y ≤ x) : difference? x y = some (x - y) := if_pos h

theorem copyIn?_eq {b : Buffer} {bs : List UInt8} (h : b.size + bs.length ≤ b.capacity) :
    copyIn? b bs = some (b.extend bs) := if_pos h

/-! ### Checked calls -/

/-- The length of the record that feeding `chunk` would cut. -/
def cutEnd? (a : Assembler) (chunk : List UInt8) : Option (Option Nat) := do
  let unscanned ← from? a.held a.scanned
  match unscanned.findIdx? (· == a.terminator) with
  | some found => return some (a.scanned + found + 1)
  | none => return (chunk.findIdx? (· == a.terminator)).map (a.heldSize + · + 1)

/-- Buffer a chunk that ends no record. -/
def append? (grants : Allocator) (a : Assembler) (chunk : List UInt8) :
    Option (Assembler × Except AssembleError (Option Record)) :=
  let buffer := a.pending.getD .empty
  match buffer.reserve? grants chunk.length with
  | none =>
    some ({ a with pending := buffer.nonempty? }, .error (.outOfMemory chunk.length .refused))
  | some buffer => do
    let buffer ← copyIn? buffer chunk
    return ({ a with pending := some buffer, scanned := buffer.size }, .ok none)

/-- Divide what `whole` holds, followed by `chunk`, after `stop` bytes. -/
def divide? (whole rest : Buffer) (chunk : List UInt8) (stop : Nat) : Option (Buffer × Buffer) :=
  if stop ≤ whole.size then do
    let behind ← from? whole.bytes stop
    let rest ← copyIn? rest behind
    let rest ← copyIn? rest chunk
    return (whole.truncate stop, rest)
  else do
    let taken := stop - whole.size
    let front ← upTo? chunk taken
    let behind ← from? chunk taken
    let whole ← copyIn? whole front
    let rest ← copyIn? rest behind
    return (whole, rest)

/-- Cut a record of `stop` bytes from the buffered bytes followed by `chunk`. -/
def cut? (grants : Allocator) (a : Assembler) (chunk : List UInt8) (stop : Nat) :
    Option (Assembler × Except AssembleError (Option Record)) := do
  let carried ← difference? (a.heldSize + chunk.length) stop
  let more := stop - a.heldSize
  match Buffer.fresh? grants .carry carried with
  | none => return (a, .error (.outOfMemory carried .refused))
  | some rest =>
    match a.recordBuffer? grants more with
    | none => return (a, .error (.outOfMemory more .refused))
    | some whole =>
      let (record, rest) ← divide? whole rest chunk stop
      return ({ a with pending := rest.nonempty?, scanned := 0 },
        .ok (some (.ofList record.bytes)))

/-- Take a chunk in, and cut the first record it completes. -/
def feed? (grants : Allocator) (a : Assembler) (chunk : List UInt8) :
    Option (Assembler × Except AssembleError (Option Record)) :=
  if chunk.isEmpty then some (a, .ok none)
  else do
    match ← cutEnd? a chunk with
    | none => append? grants a chunk
    | some stop => cut? grants a chunk stop

/-- Cut the first record that is buffered in full. -/
def pop? (grants : Allocator) (a : Assembler) :
    Option (Assembler × Except AssembleError (Option Record)) :=
  match a.pending with
  | none => some (a, .ok none)
  | some buffer => do
    let unscanned ← from? buffer.bytes a.scanned
    match unscanned.findIdx? (· == a.terminator) with
    | none => return ({ a with scanned := buffer.size }, .ok none)
    | some found =>
      let stop := a.scanned + found + 1
      let carried ← difference? buffer.size stop
      match Buffer.fresh? grants .carry carried with
      | none => return (a, .error (.outOfMemory carried .refused))
      | some rest =>
        let behind ← from? buffer.bytes stop
        let rest ← copyIn? rest behind
        return ({ a with pending := rest.nonempty?, scanned := 0 },
          .ok (some (.ofList (buffer.bytes.take stop))))

end Checked

/-! ### The checked calls never fail -/

theorem Valid.checked_cutEnd (hv : a.Valid) (chunk : List UInt8) :
    Checked.cutEnd? a chunk = some (a.cutEnd? chunk) := by
  rw [Checked.cutEnd?, Checked.from?_eq hv.scanned_le, cutEnd?, unscanned_eq_drop]
  dsimp only [Option.bind_eq_bind, Option.bind_some]
  cases (a.held.drop a.scanned).findIdx? (· == a.terminator) <;> rfl

theorem checked_append (grants : Allocator) (a : Assembler) (hne : chunk ≠ []) :
    Checked.append? grants a chunk = some (a.append grants chunk) := by
  rw [Checked.append?, append]
  dsimp only
  cases h : (a.pending.getD .empty).reserve? grants chunk.length with
  | none => rfl
  | some buffer =>
    have hroom : buffer.size + chunk.length ≤ buffer.capacity :=
      Buffer.size_add_le_of_reserve? h (List.length_pos_of_ne_nil hne)
    dsimp only
    rw [Checked.copyIn?_eq hroom]
    rfl

/-- **The buffers of a cut have room for what is copied into them**: the one for the rest has
exactly as much as it is given. -/
theorem checked_divide {whole rest : Buffer} {stop : Nat}
    (hrest : rest = .withCapacity (whole.size + chunk.length - stop))
    (hstop : stop ≤ whole.size + chunk.length)
    (hwhole : whole.size < stop → stop ≤ whole.capacity) :
    Checked.divide? whole rest chunk stop = some (divide whole rest chunk stop) := by
  have hsize : rest.size = 0 := by rw [hrest]; rfl
  have hcapacity : rest.capacity = whole.size + chunk.length - stop := by rw [hrest]; rfl
  rw [Checked.divide?, divide]
  split
  · next hle =>
    have hbehind : (whole.bytes.drop stop).length = whole.size - stop := by simp
    have hfirst : rest.size + (whole.bytes.drop stop).length ≤ rest.capacity := by omega
    have hsecond : (rest.extend (whole.bytes.drop stop)).size + chunk.length
        ≤ (rest.extend (whole.bytes.drop stop)).capacity := by
      rw [Buffer.size_extend, Buffer.capacity_extend hfirst]
      omega
    have hstart : stop ≤ whole.bytes.length := by simpa using hle
    simp only [Checked.from?_eq hstart, Checked.copyIn?_eq hfirst, Checked.copyIn?_eq hsecond,
      Buffer.extendFrom_eq_extend, Option.bind_eq_bind, Option.bind_some]
    rfl
  · next hlt =>
    have htaken : stop - whole.size ≤ chunk.length := by omega
    have hfront : whole.size + (chunk.take (stop - whole.size)).length ≤ whole.capacity := by
      have := hwhole (by omega)
      rw [List.length_take]
      omega
    have hbehind : rest.size + (chunk.drop (stop - whole.size)).length ≤ rest.capacity := by
      rw [List.length_drop]
      omega
    simp only [Checked.upTo?_eq htaken, Checked.from?_eq htaken, Checked.copyIn?_eq hfront,
      Checked.copyIn?_eq hbehind, Option.bind_eq_bind, Option.bind_some]
    rfl

/-- A record that takes bytes from the chunk has room for them. -/
theorem le_capacity_of_recordBuffer? {stop : Nat} {whole : Buffer}
    (h : a.recordBuffer? grants (stop - a.heldSize) = some whole) (hlt : whole.size < stop) :
    stop ≤ whole.capacity := by
  have hsize : whole.size = a.heldSize := by
    rw [← Buffer.length_bytes, bytes_of_recordBuffer? h, heldSize_eq_length]
  rw [recordBuffer?] at h
  cases hp : a.pending with
  | none =>
    rw [hp] at h
    have hcapacity : whole.capacity = stop - a.heldSize := by
      rw [Buffer.eq_withCapacity_of_fresh? h]
      rfl
    have hheld : a.heldSize = 0 := by simp [heldSize, hp]
    omega
  | some buffer =>
    rw [hp] at h
    have := Buffer.size_add_le_of_reserveExact? h (by omega)
    omega

theorem checked_cut (grants : Allocator) (a : Assembler) {stop : Nat}
    (hstop : stop ≤ a.heldSize + chunk.length) :
    Checked.cut? grants a chunk stop = some (a.cut grants chunk stop) := by
  rw [Checked.cut?, cut, Checked.difference?_eq hstop, Option.bind_eq_bind, Option.bind_some]
  dsimp only
  cases hrest : Buffer.fresh? grants .carry (a.heldSize + chunk.length - stop) with
  | none => rfl
  | some rest =>
    cases hwhole : a.recordBuffer? grants (stop - a.heldSize) with
    | none => rfl
    | some whole =>
      have hsize : whole.size = a.heldSize := by
        rw [← Buffer.length_bytes, bytes_of_recordBuffer? hwhole, heldSize_eq_length]
      have hdivide :
          Checked.divide? whole rest chunk stop = some (divide whole rest chunk stop) := by
        refine checked_divide ?_ (by omega) (le_capacity_of_recordBuffer? hwhole)
        rw [hsize]
        exact Buffer.eq_withCapacity_of_fresh? hrest
      dsimp only
      rw [hdivide]
      rfl

/-- **Feeding stays inside**: no slice, no difference and no copy of it fails. -/
theorem Valid.checked_feed (hv : a.Valid) (grants : Allocator) (chunk : List UInt8) :
    Checked.feed? grants a chunk = some (a.feed grants chunk) := by
  rw [Checked.feed?, feed]
  split
  · rfl
  · next hne =>
    rw [hv.checked_cutEnd, Option.bind_eq_bind, Option.bind_some]
    cases hstop : a.cutEnd? chunk with
    | none => exact checked_append grants a (mt List.isEmpty_iff.2 hne)
    | some stop =>
      have hle : stop ≤ a.heldSize + chunk.length := by
        rw [heldSize_eq_length, ← List.length_append]
        exact cutEnd?_le hstop
      exact checked_cut grants a hle

/-- **Popping stays inside.** -/
theorem Valid.checked_pop (hv : a.Valid) (grants : Allocator) :
    Checked.pop? grants a = some (a.pop grants) := by
  rw [Checked.pop?, pop]
  cases hp : a.pending with
  | none => rfl
  | some buffer =>
    have hheld : a.held = buffer.bytes := by simp [held, pending?, hp]
    have hscanned : a.scanned ≤ buffer.bytes.length := hheld ▸ hv.scanned_le
    dsimp only
    rw [Checked.from?_eq hscanned, Option.bind_eq_bind, Option.bind_some, unscanned_eq_drop, hheld]
    cases hfind : (buffer.bytes.drop a.scanned).findIdx? (· == a.terminator) with
    | none => rfl
    | some found =>
      have hstop : a.scanned + found + 1 ≤ buffer.size := by
        have hlt := (isPiece_take_of_findIdx? hfind).2
        rw [List.length_drop, Buffer.length_bytes] at hlt
        omega
      dsimp only
      rw [Checked.difference?_eq hstop, Option.bind_eq_bind, Option.bind_some]
      cases hrest : Buffer.fresh? grants .carry (buffer.size - (a.scanned + found + 1)) with
      | none => rfl
      | some rest =>
        have hroom : rest.size + (buffer.bytes.drop (a.scanned + found + 1)).length
            ≤ rest.capacity := by
          rw [Buffer.eq_withCapacity_of_fresh? hrest, List.length_drop, Buffer.length_bytes]
          exact Nat.le_of_eq (Nat.zero_add _)
        dsimp only
        rw [Checked.from?_eq (by simpa using hstop), Option.bind_eq_bind, Option.bind_some,
          Checked.copyIn?_eq hroom, Buffer.extendFrom_eq_extend]
        rfl

/-! ### Every assembler there is -/

/-- **An assembler stays inside its buffers.** In every assembler that calls lead to, whatever was
refused on the way, there is no buffer or one with bytes, only buffered bytes count as searched, and
those hold no terminator. So the calls never slice behind an end, take off more than there is, or
copy more than was reserved: with all of this checked they do what they do without. -/
theorem Reachable.within_bounds (h : Reachable t a) :
    (∀ buffer, a.pending = some buffer → buffer.bytes ≠ []) ∧
    a.scanned ≤ a.heldSize ∧ (a.pending = none → a.scanned = 0) ∧
    t ∉ a.held.take a.scanned ∧
    (∀ chunk, Checked.cutEnd? a chunk = some (a.cutEnd? chunk)) ∧
    (∀ grants chunk, Checked.feed? grants a chunk = some (a.feed grants chunk)) ∧
    ∀ grants, Checked.pop? grants a = some (a.pop grants) := by
  obtain ⟨hv, rfl⟩ := h.valid
  have hscanned : a.scanned ≤ a.heldSize := by
    rw [heldSize_eq_length]
    exact hv.scanned_le
  refine ⟨?_, hscanned, ?_, hv.notMem_scanned, hv.checked_cutEnd, hv.checked_feed, hv.checked_pop⟩
  · rintro buffer hp hnil
    apply hv.pending?_ne
    rw [pending?, hp, Option.map_some, hnil]
  · intro hp
    have hheld : a.heldSize = 0 := by simp [heldSize, hp]
    omega

/-- Two bytes are buffered and searched. A chunk that ends a record is refused the room for it, and
taken in when it comes again, with a byte behind the record; neither time does a step fail. -/
theorem within_bounds_after_refusal :
    let chunk : List UInt8 := [99, 99, 99, 99, 99, 99, 99, 10, 120]
    let a : Assembler := ((new 10).answer .generous (.feed [97, 98])).1
    let b : Assembler := (a.answer (.refusing 10) (.feed chunk)).1
    Reachable 10 b ∧ b.scanned = 2 ∧ b.heldSize = 2 ∧ 10 ∉ b.held.take 2 ∧
      Checked.feed? (.refusing 10) a chunk = some (a, .error (.outOfMemory 8 .refused)) ∧
      Checked.feed? .generous b chunk = some (b.feed .generous chunk) ∧
      (b.feed .generous chunk).1.held = [120] := by
  intro chunk a b
  have ha : Reachable 10 a := .answer .new .generous (.feed [97, 98])
  have hb : Reachable 10 b := ha.answer (.refusing 10) (.feed chunk)
  have hscanned : b.scanned = 2 := by cbv
  have hsize : b.heldSize = 2 := by cbv
  have hrefused : a.feed (.refusing 10) chunk = (a, .error (.outOfMemory 8 .refused)) := by cbv
  have htaken : (b.feed .generous chunk).1.held = [120] := by cbv
  obtain ⟨-, -, -, hnot, -, hfeed, -⟩ := hb.within_bounds
  rw [hscanned] at hnot
  obtain ⟨-, -, -, -, -, hfirst, -⟩ := ha.within_bounds
  exact ⟨hb, hscanned, hsize, hnot, (hfirst _ _).trans (congrArg some hrefused), hfeed _ _, htaken⟩

end Assembler

end RecordRing
