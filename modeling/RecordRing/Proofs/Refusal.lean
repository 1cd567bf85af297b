import Mathlib.Data.List.Nodup
import RecordRing.Proofs.Stream

/-!
# Calls that are refused memory

An assembler asks for every buffer a call needs before it moves a byte. Which buffers these are is
known from its bytes and those of the chunk: a call that cuts a record needs a buffer for the bytes
behind the record, and then room for the record itself; a chunk that ends no record needs room in
the buffer there is (`Assembler.demands`). The call fails with the first of these demands that is
refused, and with no other error.

Nothing has been moved by then, so the assembler is as it was, down to the room in its buffer, and
the call can be made again. In a run, the refused calls may therefore be left out: the others are
answered as they were, and the run ends in the same state.

## What an allocator can refuse

An allocator is asked for one request at a time and remembers nothing. It can still refuse any of
the requests of a call and grant the others, because no two of them are equal
(`Assembler.exists_refusing`).

## Main definitions

* `Demand`, `refusal?` — what is asked for, and the first refusal
* `Assembler.demands` — what a call asks for
* `Assembler.Reachable` — the assemblers that calls lead to
* `Assembler.unrefused` — the calls of a run that are not refused

## Main results

* `Assembler.exists_refusing` — a call may be refused any of its demands
* `Assembler.Valid.refused?_answer` — a call fails with the first refusal of its demands
* `Assembler.Valid.answer_of_refused?` — and leaves the assembler as it was
* `Assembler.Valid.run_unrefused` — a run without its refused calls
* `Assembler.Reachable.refused_call` — a refused call can be made again
-/

namespace RecordRing

variable {grants : Allocator}

/-! ### Demands -/

/-- A request, and how many more bytes it is made for. -/
structure Demand where
  /-- What the allocator is asked. -/
  request : Request
  /-- The number of bytes that there is no room for yet. -/
  additional : Nat
deriving DecidableEq, Repr

/-- Of demands made one after the other, the first that is refused. -/
def refusal? (grants : Allocator) (demands : List Demand) : Option AssembleError :=
  (demands.find? fun demand => !grants demand.request).map fun demand =>
    .outOfMemory demand.additional .refused

theorem refusal?_append (grants : Allocator) (first second : List Demand) :
    refusal? grants (first ++ second) = (refusal? grants first).or (refusal? grants second) := by
  rw [refusal?, List.find?_append, Option.map_or]
  rfl

@[simp] theorem refusal?_generous (demands : List Demand) : refusal? .generous demands = none := by
  rw [refusal?, Option.map_eq_none_iff, List.find?_eq_none]
  intro demand _
  simp [Allocator.generous]

/-- What is said in the place of a buffer that was not to be had. -/
def shortage? (more : Nat) (b? : Option Buffer) : Option AssembleError :=
  if b?.isSome then none else some (.outOfMemory more .refused)

namespace Buffer

/-- What a fresh buffer of `len` bytes asks for. -/
def freshDemands (purpose : Purpose) (len : Nat) : List Demand :=
  if len = 0 then [] else [⟨⟨purpose, len⟩, len⟩]

/-- What room for `more` bytes asks for, where the buffer is enlarged to `capacity` bytes if there
is too little. -/
def growthDemands (b : Buffer) (more capacity : Nat) : List Demand :=
  if more ≤ b.room then [] else [⟨⟨.grow, capacity⟩, more⟩]

theorem refusal?_freshDemands (grants : Allocator) (purpose : Purpose) (len : Nat) :
    refusal? grants (freshDemands purpose len) = shortage? len (fresh? grants purpose len) := by
  rw [freshDemands, fresh?]
  by_cases hlen : len = 0
  · simp [hlen, refusal?, shortage?]
  · cases hgrants : grants ⟨purpose, len⟩ <;> simp [hlen, hgrants, refusal?, shortage?]

/-- Both ways to make room in a buffer are of this form. -/
theorem refusal?_growthDemands (grants : Allocator) (b : Buffer) (more capacity : Nat) :
    refusal? grants (b.growthDemands more capacity) =
      shortage? more (if more ≤ b.room then some b
        else if grants ⟨.grow, capacity⟩ then some { b with capacity } else none) := by
  rw [growthDemands]
  by_cases hroom : more ≤ b.room
  · simp [hroom, refusal?, shortage?]
  · cases hgrants : grants ⟨.grow, capacity⟩ <;> simp [hroom, hgrants, refusal?, shortage?]

@[simp] theorem growthDemands_zero (b : Buffer) (capacity : Nat) :
    b.growthDemands 0 capacity = [] := if_pos (Nat.zero_le _)

end Buffer

namespace Assembler

variable {t : UInt8} {a b : Assembler} {chunk : List UInt8} {e : AssembleError}

/-! ### What a call asks for -/

/-- What a record asks for that takes `more` bytes from the chunk. -/
def recordDemands (a : Assembler) (more : Nat) : List Demand :=
  match a.pending with
  | some buffer => buffer.growthDemands more (buffer.size + more)
  | none => Buffer.freshDemands .cut more

/-- What is asked for when `chunk` follows the buffered bytes: for the first piece, a buffer for the
bytes behind it, and then room for those that are not buffered yet; if there is no piece, room for
the chunk. -/
def demandsFor (a : Assembler) (chunk : List UInt8) : List Demand :=
  match pieces a.terminator (a.held ++ chunk) with
  | [] =>
    let buffer := a.pending.getD .empty
    buffer.growthDemands chunk.length (buffer.grownCapacity chunk.length)
  | piece :: _ =>
    Buffer.freshDemands .carry (a.held.length + chunk.length - piece.length) ++
      a.recordDemands (piece.length - a.held.length)

/-- What a call asks for, in this order. -/
def demands (a : Assembler) : Call → List Demand
  | .feed chunk => if chunk = [] then [] else a.demandsFor chunk
  | .pop => a.demandsFor []
  | .completesWith _ | .hasComplete => []

@[simp] theorem recordDemands_zero (a : Assembler) : a.recordDemands 0 = [] := by
  rw [recordDemands]
  cases a.pending with
  | none => rfl
  | some buffer => exact buffer.growthDemands_zero _

theorem refusal?_recordDemands (grants : Allocator) (a : Assembler) (more : Nat) :
    refusal? grants (a.recordDemands more) = shortage? more (a.recordBuffer? grants more) := by
  rw [recordDemands, recordBuffer?]
  cases a.pending with
  | none => exact Buffer.refusal?_freshDemands grants .cut more
  | some buffer => exact buffer.refusal?_growthDemands grants more _

/-- No two requests of a call are equal. -/
theorem nodup_requests (a : Assembler) (call : Call) :
    ((a.demands call).map Demand.request).Nodup := by
  have hfor (chunk : List UInt8) : ((a.demandsFor chunk).map Demand.request).Nodup := by
    rw [demandsFor]
    split
    · simp only [Buffer.growthDemands]
      split <;> simp
    · rw [Buffer.freshDemands, recordDemands]
      cases a.pending with
      | none => simp only [Buffer.freshDemands]; split <;> split <;> simp
      | some buffer => simp only [Buffer.growthDemands]; split <;> split <;> simp
  cases call with
  | feed chunk =>
    rw [demands]
    split
    · exact List.nodup_nil
    · exact hfor chunk
  | pop => exact hfor []
  | completesWith _ | hasComplete => exact List.nodup_nil

/-- **An allocator can refuse any of the demands of a call** and grant the others. -/
theorem exists_refusing (a : Assembler) (call : Call) (refused : Demand → Bool) :
    ∃ grants : Allocator, ∀ demand ∈ a.demands call, grants demand.request = !refused demand := by
  refine ⟨fun request => !(a.demands call).any fun demand =>
    demand.request == request && refused demand, fun demand hdemand => ?_⟩
  rw [Bool.not_inj_iff, Bool.eq_iff_iff, List.any_eq_true]
  constructor
  · rintro ⟨other, hother, h⟩
    rw [Bool.and_eq_true, beq_iff_eq] at h
    have hsame : other = demand :=
      List.inj_on_of_nodup_map (a.nodup_requests call) hother hdemand h.1
    rw [← hsame]
    exact h.2
  · intro h
    exact ⟨demand, hdemand, by simp [h]⟩

/-! ### The record that is looked for -/

theorem cutEnd?_le {stop : Nat} (h : a.cutEnd? chunk = some stop) :
    stop ≤ (a.held ++ chunk).length := by
  rw [List.length_append]
  rw [cutEnd?] at h
  cases hfind : a.unscanned.findIdx? (· == a.terminator) with
  | some found =>
    rw [hfind] at h
    obtain rfl : a.scanned + found + 1 = stop := Option.some.inj h
    have hlt := (isPiece_take_of_findIdx? hfind).2
    rw [unscanned_eq_drop, List.length_drop] at hlt
    omega
  | none =>
    rw [hfind] at h
    obtain ⟨found, hchunk, rfl⟩ := Option.map_eq_some_iff.1 h
    have hlt := (isPiece_take_of_findIdx? hchunk).2
    rw [heldSize_eq_length]
    omega

/-- **A search finds the end of the first piece.** -/
theorem Valid.cutEnd?_eq (hv : a.Valid) (chunk : List UInt8) :
    a.cutEnd? chunk = (pieces a.terminator (a.held ++ chunk)).head?.map List.length := by
  cases h : a.cutEnd? chunk with
  | none => rw [pieces_of_notMem (hv.cutEnd?_eq_none_iff.1 h)]; rfl
  | some stop =>
    rw [← List.take_append_drop stop (a.held ++ chunk),
      pieces_piece_append (hv.isPiece_of_cutEnd? h), List.head?_cons, Option.map_some,
      List.length_take, Nat.min_eq_left (cutEnd?_le h)]

theorem Valid.demandsFor_of_cutEnd?_eq_none (hv : a.Valid) (h : a.cutEnd? chunk = none) :
    a.demandsFor chunk = (a.pending.getD .empty).growthDemands chunk.length
      ((a.pending.getD .empty).grownCapacity chunk.length) := by
  rw [demandsFor, pieces_of_notMem (hv.cutEnd?_eq_none_iff.1 h)]

theorem Valid.demandsFor_of_cutEnd? (hv : a.Valid) {stop : Nat} (h : a.cutEnd? chunk = some stop) :
    a.demandsFor chunk = Buffer.freshDemands .carry (a.heldSize + chunk.length - stop) ++
      a.recordDemands (stop - a.heldSize) := by
  rw [hv.cutEnd?_eq] at h
  rw [demandsFor, heldSize_eq_length]
  cases hpieces : pieces a.terminator (a.held ++ chunk) with
  | nil =>
    rw [hpieces] at h
    exact absurd h nofun
  | cons piece _ =>
    rw [hpieces] at h
    rw [← Option.some.inj h]

/-! ### Refused calls -/

/-- The refusal that an answer tells of. -/
def Reply.refused? : Reply → Option AssembleError
  | .cut (.error e) => some e
  | _ => none

theorem Reply.refused?_eq_some_iff {reply : Reply} :
    reply.refused? = some e ↔ reply = .cut (.error e) := by
  constructor
  · intro h
    cases reply with
    | cut result =>
      cases result with
      | error e' => rw [Option.some.inj h]
      | ok _ => cases h
    | foretold _ => cases h
  · rintro rfl
    rfl

theorem refused?_append (grants : Allocator) (a : Assembler) (chunk : List UInt8) :
    (Reply.cut (a.append grants chunk).2).refused? =
      shortage? chunk.length ((a.pending.getD .empty).reserve? grants chunk.length) := by
  rw [append]
  dsimp only
  cases (a.pending.getD .empty).reserve? grants chunk.length <;> rfl

theorem refused?_cut (grants : Allocator) (a : Assembler) (chunk : List UInt8) (stop : Nat) :
    (Reply.cut (a.cut grants chunk stop).2).refused? =
      (shortage? (a.heldSize + chunk.length - stop)
        (Buffer.fresh? grants .carry (a.heldSize + chunk.length - stop))).or
        (shortage? (stop - a.heldSize) (a.recordBuffer? grants (stop - a.heldSize))) := by
  rw [cut]
  dsimp only
  cases Buffer.fresh? grants .carry (a.heldSize + chunk.length - stop) with
  | none => rfl
  | some rest => cases a.recordBuffer? grants (stop - a.heldSize) <;> rfl

theorem Valid.refused?_feed (hv : a.Valid) (grants : Allocator) (hne : chunk ≠ []) :
    (Reply.cut (a.feed grants chunk).2).refused? = refusal? grants (a.demandsFor chunk) := by
  rw [feed, if_neg (mt List.isEmpty_iff.1 hne)]
  cases hstop : a.cutEnd? chunk with
  | none =>
    rw [hv.demandsFor_of_cutEnd?_eq_none hstop, Buffer.refusal?_growthDemands]
    exact refused?_append grants a chunk
  | some stop =>
    rw [hv.demandsFor_of_cutEnd? hstop, refusal?_append, Buffer.refusal?_freshDemands,
      refusal?_recordDemands]
    exact refused?_cut grants a chunk stop

theorem Valid.refused?_pop (hv : a.Valid) (grants : Allocator) :
    (Reply.cut (a.pop grants).2).refused? = refusal? grants (a.demandsFor []) := by
  rw [pop_eq]
  cases hstop : a.cutEnd? [] with
  | none =>
    rw [hv.demandsFor_of_cutEnd?_eq_none hstop, List.length_nil, Buffer.growthDemands_zero]
    cases a.pending <;> rfl
  | some stop =>
    have hle : stop ≤ a.held.length := by simpa using cutEnd?_le hstop
    -- the record is buffered already, so it asks for nothing
    have hmore : stop - a.heldSize = 0 := by rw [heldSize_eq_length]; omega
    rw [hv.demandsFor_of_cutEnd? hstop, hmore, recordDemands_zero, List.append_nil,
      List.length_nil, Nat.add_zero, Buffer.refusal?_freshDemands]
    cases hp : a.pending with
    | none =>
      have hheld : a.held = [] := by simp [held, pending?, hp]
      have hpiece := hv.isPiece_of_cutEnd? hstop
      rw [hheld, List.append_nil, List.take_nil] at hpiece
      exact absurd rfl hpiece.ne_nil
    | some buffer =>
      have hsize : a.heldSize = buffer.size := by simp [heldSize, hp]
      rw [hsize]
      dsimp only
      cases Buffer.fresh? grants .carry (buffer.size - stop) <;> rfl

/-- **A call fails with the first refusal of its demands**, and for no other reason. -/
theorem Valid.refused?_answer (hv : a.Valid) (grants : Allocator) (call : Call) :
    (a.answer grants call).2.refused? = refusal? grants (a.demands call) := by
  cases call with
  | feed chunk =>
    by_cases hne : chunk = []
    · rw [hne]
      rfl
    · rw [demands, if_neg hne]
      exact hv.refused?_feed grants hne
  | pop => exact hv.refused?_pop grants
  | completesWith _ | hasComplete => rfl

/-- **A refused call leaves the assembler as it was**, with the room in its buffer. -/
theorem Valid.answer_of_refused? (hv : a.Valid) {call : Call}
    (h : (a.answer grants call).2.refused? = some e) : (a.answer grants call).1 = a := by
  rcases hv.answer_cases grants call with ⟨e', heq⟩ | ⟨b, first, heq, -⟩ | ⟨yes, heq⟩ <;>
    rw [heq] at h ⊢
  cases h

/-! ### Calls that are not refused -/

theorem Valid.demands_ne_nil (hv : a.Valid) {call : Call}
    (h : (a.answer grants call).2.refused? = some e) : a.demands call ≠ [] := by
  intro hnil
  rw [hv.refused?_answer, hnil] at h
  exact absurd h nofun

/-- A call that is done cuts the first piece, if there is one. -/
theorem Valid.answer_ok (hv : a.Valid) {call : Call} (hne : call ≠ .feed [])
    {first : Option Record} (heq : a.answer grants call = (b, .cut (.ok first))) :
    a.Advances call.input first.toList b ∧
      first.map Record.bytes = (pieces a.terminator (a.held ++ call.input)).head? := by
  rcases hv.answer_cases grants call with ⟨e, heq'⟩ | ⟨b', first', heq', hadv, hnot⟩ | ⟨yes, heq'⟩
  · exact absurd (heq.symm.trans heq') (by simp)
  · obtain ⟨rfl, hreply⟩ := Prod.mk.inj (heq.symm.trans heq')
    obtain rfl : first = first' := Except.ok.inj (Reply.cut.inj hreply)
    refine ⟨hadv, ?_⟩
    rw [← hadv.append_pieces]
    cases first with
    | none =>
      rw [pieces_of_notMem (hadv.terminator_eq ▸ hnot rfl hne)]
      rfl
    | some r => rfl
  · exact absurd (heq.symm.trans heq') (by simp)

/-- A call whose demands are granted is done. -/
theorem Valid.answer_granted (hv : a.Valid) {call : Call} (hdemands : a.demands call ≠ [])
    (hgranted : refusal? grants (a.demands call) = none) :
    ∃ b first, a.answer grants call = (b, .cut (.ok first)) ∧
      a.Advances call.input first.toList b ∧
      first.map Record.bytes = (pieces a.terminator (a.held ++ call.input)).head? := by
  rw [← hv.refused?_answer] at hgranted
  rcases hv.answer_cases grants call with ⟨e, heq⟩ | ⟨b, first, heq, -⟩ | ⟨yes, heq⟩
  · rw [heq] at hgranted
    cases hgranted
  · have hne : call ≠ .feed [] := by
      rintro rfl
      exact hdemands rfl
    exact ⟨b, first, heq, hv.answer_ok hne heq⟩
  · cases call with
    | completesWith _ | hasComplete => exact absurd rfl hdemands
    | feed _ | pop => cases congrArg Prod.snd heq

/-! ### Popping everything -/

theorem Valid.popUpTo_refused (hv : a.Valid) {count : Nat}
    (h : (popUpTo grants count a).2.2 = some e) :
    refusal? grants ((popUpTo grants count a).1.demands .pop) = some e := by
  induction count generalizing a with
  | zero => cases h
  | succ count ih =>
    have hpop := hv.refused?_answer grants .pop
    rw [answer] at hpop
    rw [popUpTo] at h ⊢
    rcases hv.pop_cases grants with ⟨e', heq⟩ | ⟨b, heq, -, -⟩ | ⟨b, r, heq, hadv⟩ <;>
      rw [heq] at h hpop ⊢
    · rw [← hpop, ← h]
      rfl
    · cases h
    · exact ih hadv.valid h

/-- **Popping everything stops at the first refusal**, with the record still buffered that was asked
for. -/
theorem Valid.popAll_refused (hv : a.Valid) (h : (a.popAll grants).2.2 = some e) :
    refusal? grants ((a.popAll grants).1.demands .pop) = some e := hv.popUpTo_refused h

/-! ### Runs -/

/-- The calls of a run that are not refused. -/
def unrefused (a : Assembler) : List (Call × Allocator) → List (Call × Allocator)
  | [] => []
  | (call, grants) :: calls =>
    let (b, reply) := a.answer grants call
    if reply.refused?.isSome then unrefused b calls else (call, grants) :: unrefused b calls

/-- **Refused calls may be left out of a run**: the others are answered as they were, and the run
ends in the same state. -/
theorem Valid.run_unrefused (hv : a.Valid) (calls : List (Call × Allocator)) :
    a.run (a.unrefused calls) =
      ((a.run calls).1, (a.run calls).2.filter fun entry => entry.reply.refused?.isNone) := by
  induction calls generalizing a with
  | nil => rfl
  | cons x calls ih =>
    obtain ⟨call, grants⟩ := x
    have hrest := ih (hv.answer_advances grants call).valid
    rw [unrefused, run]
    dsimp only
    cases hrefused : (a.answer grants call).2.refused? with
    | some e =>
      -- the others find the assembler as this call found it
      rw [hv.answer_of_refused? hrefused] at hrest ⊢
      rw [if_pos Option.isSome_some, hrest, List.filter_cons_of_neg (by simp [hrefused])]
    | none =>
      rw [if_neg (by simp), run]
      dsimp only
      rw [hrest, List.filter_cons_of_pos (by simp [hrefused])]

/-! ### Reachable assemblers -/

/-- Calls lead from a new assembler with terminator `t` to this one. Each call may be refused any of
its demands. -/
inductive Reachable (t : UInt8) : Assembler → Prop
  /-- It is new. -/
  | new : Reachable t (.new t)
  /-- It was fed, popped or asked. -/
  | answer {a : Assembler} (h : Reachable t a) (grants : Allocator) (call : Call) :
    Reachable t (a.answer grants call).1
  /-- It has given its bytes up. -/
  | reset {a : Assembler} (h : Reachable t a) : Reachable t a.reset.1
  /-- It is a copy. -/
  | copy {a : Assembler} (h : Reachable t a) : Reachable t a.copy

theorem Reachable.feed (h : Reachable t a) (grants : Allocator) (chunk : List UInt8) :
    Reachable t (a.feed grants chunk).1 := h.answer grants (.feed chunk)

theorem Reachable.pop (h : Reachable t a) (grants : Allocator) : Reachable t (a.pop grants).1 :=
  h.answer grants .pop

theorem Reachable.popUpTo (h : Reachable t a) (grants : Allocator) (count : Nat) :
    Reachable t (Assembler.popUpTo grants count a).1 := by
  induction count generalizing a with
  | zero => exact h
  | succ count ih =>
    have hpop := h.pop grants
    rw [Assembler.popUpTo]
    rcases heq : a.pop grants with ⟨b, e | (_ | r)⟩ <;> rw [heq] at hpop
    · exact hpop
    · exact hpop
    · exact ih hpop

theorem Reachable.popAll (h : Reachable t a) (grants : Allocator) :
    Reachable t (a.popAll grants).1 := h.popUpTo grants _

@[simp] theorem pending?_copy (a : Assembler) : a.copy.pending? = a.pending? := by
  rw [pending?, pending?, copy]
  cases a.pending <;> rfl

@[simp] theorem held_copy (a : Assembler) : a.copy.held = a.held := by
  rw [held, pending?_copy, held]

theorem Valid.copy (hv : a.Valid) : a.copy.Valid where
  pending?_ne := by
    rw [pending?_copy]
    exact hv.pending?_ne
  scanned_le := by
    rw [held_copy]
    exact hv.scanned_le
  notMem_scanned := by
    rw [held_copy]
    exact hv.notMem_scanned

theorem Reachable.valid (h : Reachable t a) : a.Valid ∧ a.terminator = t := by
  induction h with
  | new => exact ⟨valid_new t, rfl⟩
  | answer h grants call ih =>
    have hadv := ih.1.answer_advances grants call
    exact ⟨hadv.valid, hadv.terminator_eq.trans ih.2⟩
  | reset h ih => exact ⟨valid_of_scanned_eq_zero nofun rfl, ih.2⟩
  | copy h ih => exact ⟨ih.1.copy, ih.2⟩

/-- **A refused call can be made again.** A call of a reachable assembler fails exactly if one of
its demands is refused, with the number of bytes that the first of these was made for. The assembler
is then as it was, with its terminator, its buffer and the room in it, and the count of searched
bytes. So the same call, with nothing refused, ends and is answered as if it had been made in the
first place: it takes its chunk in, and cuts the first piece if there is one. -/
theorem Reachable.refused_call (h : Reachable t a) (grants : Allocator) (call : Call) :
    (∀ e, (a.answer grants call).2 = .cut (.error e) ↔
        refusal? grants (a.demands call) = some e) ∧
      ∀ e, (a.answer grants call).2 = .cut (.error e) →
        (a.answer grants call).1 = a ∧
        ∃ b first, (a.answer grants call).1.answer .generous call = (b, .cut (.ok first)) ∧
          a.answer .generous call = (b, .cut (.ok first)) ∧
          first.map Record.bytes = (pieces t (a.held ++ call.input)).head? ∧
          concat first.toList ++ b.held = a.held ++ call.input := by
  obtain ⟨hv, rfl⟩ := h.valid
  refine ⟨fun e => ?_, fun e he => ?_⟩
  · rw [← Reply.refused?_eq_some_iff, hv.refused?_answer]
  · have hrefused := Reply.refused?_eq_some_iff.2 he
    have hsame := hv.answer_of_refused? hrefused
    obtain ⟨b, first, hagain, hadv, hfirst⟩ :=
      hv.answer_granted (hv.demands_ne_nil hrefused) (refusal?_generous _)
    refine ⟨hsame, b, first, ?_, hagain, hfirst, hadv.concat_append⟩
    rw [hsame, hagain]

/-- There is room for two buffered bytes and six more, and the record takes eight more. The buffer
for the byte behind it is granted, enlarging the other one is refused. -/
theorem refused_call_to_enlarge :
    let chunk : List UInt8 := [99, 99, 99, 99, 99, 99, 99, 10, 120]
    ∃ a b r, Reachable 10 a ∧ a.pending? = some [97, 98] ∧
      a.demands (.feed chunk) = [⟨⟨.carry, 1⟩, 1⟩, ⟨⟨.grow, 10⟩, 8⟩] ∧
      a.answer (.refusing 10) (.feed chunk) = (a, .cut (.error (.outOfMemory 8 .refused))) ∧
      a.answer .generous (.feed chunk) = (b, .cut (.ok (some r))) ∧
      r.bytes = [97, 98, 99, 99, 99, 99, 99, 99, 99, 10] ∧ b.held = [120] := by
  intro chunk
  let a : Assembler := ((new 10).answer .generous (.feed [97, 98])).1
  have ha : Reachable 10 a := .answer .new .generous (.feed [97, 98])
  have hpending : a.pending? = some [97, 98] := by cbv
  have hdemands : a.demands (.feed chunk) = [⟨⟨.carry, 1⟩, 1⟩, ⟨⟨.grow, 10⟩, 8⟩] := by cbv
  have hpieces : pieces 10 (a.held ++ chunk) = [[97, 98, 99, 99, 99, 99, 99, 99, 99, 10]] := by cbv
  have hheld : a.held ++ chunk = [97, 98, 99, 99, 99, 99, 99, 99, 99, 10] ++ [120] := by cbv
  obtain ⟨hfails, hagain⟩ := ha.refused_call (.refusing 10) (.feed chunk)
  have hrefused : (a.answer (.refusing 10) (.feed chunk)).2 =
      .cut (.error (.outOfMemory 8 .refused)) := by
    rw [hfails, hdemands]
    rfl
  -- nothing below is evaluated
  clear_value a
  obtain ⟨hsame, b, first, -, hb, hfirst, hconcat⟩ := hagain _ hrefused
  rw [show Call.input (.feed chunk) = chunk from rfl] at hfirst hconcat
  rw [hpieces, List.head?_cons] at hfirst
  obtain ⟨r, rfl, hr⟩ := Option.map_eq_some_iff.1 hfirst
  refine ⟨a, b, r, ha, hpending, hdemands, Prod.ext hsame hrefused, hb, hr, ?_⟩
  rw [Option.toList_some, concat_cons, concat_nil, List.append_nil, hr, hheld] at hconcat
  exact List.append_cancel_left hconcat

end Assembler

end RecordRing
