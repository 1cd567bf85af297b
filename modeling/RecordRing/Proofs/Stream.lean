import RecordRing.Proofs.Assembly

/-!
# What an assembler makes of a stream

A caller may feed a stream in chunks of any size, stop popping whenever it likes, look ahead, and be
refused memory at any request. The records it is given and the bytes still buffered are nevertheless
those of the stream alone: the pieces, and the remainder.

A caller who stopped popping has not been given all pieces yet. Whether it has is seen from the
last answer: a pop that found nothing, or a chunk that completed nothing, leaves no finished record
behind (`Entry.Exhausted`).

## Main definitions

* `Assembler.Call`, `Assembler.Reply`, `Assembler.Entry`, `Assembler.run` — runs of calls
* `Assembler.returned`, `Assembler.accepted` — what a run gave out, and what it took in
* `Assembler.Entry.Exhausted` — an answer that says that no finished record is left

## Main results

* `Assembler.Valid.answer_cases` — what one call does
* `Assembler.Valid.run_advances` — the account of a run
* `Assembler.run_cuts_stream` — a run cuts what it took in
-/

namespace RecordRing

namespace Assembler

/-! ### Runs -/

/-- A call of an assembler. -/
inductive Call where
  /-- Take a chunk in, and cut the first record it completes. -/
  | feed (chunk : List UInt8)
  /-- Cut the first record that is buffered in full. -/
  | pop
  /-- Ask whether feeding a chunk would cut a record. -/
  | completesWith (chunk : List UInt8)
  /-- Ask whether a finished record is buffered. -/
  | hasComplete

/-- The answer to a call of an assembler. -/
inductive Reply where
  /-- A record, or none, or a refusal. -/
  | cut (result : Except AssembleError (Option Record))
  /-- Yes or no. -/
  | foretold (answer : Bool)

/-- A call that was answered. -/
structure Entry where
  /-- The call. -/
  call : Call
  /-- The answer. -/
  reply : Reply

/-- One call. -/
def answer (a : Assembler) (grants : Allocator) : Call → Assembler × Reply
  | .feed chunk =>
    let (a, result) := a.feed grants chunk
    (a, .cut result)
  | .pop =>
    let (a, result) := a.pop grants
    (a, .cut result)
  | .completesWith chunk => (a, .foretold (a.completesWith chunk))
  | .hasComplete => (a, .foretold a.hasComplete)

/-- Calls one after the other, each with the memory it is granted. -/
def run (a : Assembler) : List (Call × Allocator) → Assembler × List Entry
  | [] => (a, [])
  | (call, grants) :: calls =>
    let (a, reply) := a.answer grants call
    let (a, log) := run a calls
    (a, ⟨call, reply⟩ :: log)

/-- The bytes that a call hands over. -/
def Call.input : Call → List UInt8
  | .feed chunk => chunk
  | .pop | .completesWith _ | .hasComplete => []

/-- The bytes taken in: the chunk, if it was not refused. -/
def Entry.accepted : Entry → List UInt8
  | ⟨.feed chunk, .cut (.ok _)⟩ => chunk
  | _ => []

/-- The record given out, if there was one. -/
def Entry.returned : Entry → List Record
  | ⟨_, .cut (.ok (some r))⟩ => [r]
  | _ => []

/-- The call found no further record: it was a pop, or took bytes in, and cut none. -/
def Entry.Exhausted : Entry → Prop
  | ⟨.pop, .cut (.ok none)⟩ => True
  | ⟨.feed chunk, .cut (.ok none)⟩ => chunk ≠ []
  | _ => False

/-- The last call of a run found no further record. -/
def Exhausted (log : List Entry) : Prop := ∃ e, log.getLast? = some e ∧ e.Exhausted

/-- The bytes that a run took in. -/
def accepted (log : List Entry) : List UInt8 := log.flatMap Entry.accepted

/-- The records that a run gave out. -/
def returned (log : List Entry) : List Record := log.flatMap Entry.returned

/-! ### The account of a run -/

variable {a : Assembler}

/-- **What a call does**: it is refused, and changes nothing; or it is done, and a record is cut
unless no terminator is left; or it says yes or no. -/
theorem Valid.answer_cases (hv : a.Valid) (grants : Allocator) (call : Call) :
    (∃ e, a.answer grants call = (a, .cut (.error e))) ∨
      (∃ b first, a.answer grants call = (b, .cut (.ok first)) ∧
        a.Advances call.input first.toList b ∧
        (first = none → call ≠ .feed [] → a.terminator ∉ b.held)) ∨
      ∃ yes, a.answer grants call = (a, .foretold yes) := by
  cases call with
  | feed chunk =>
    rw [answer]
    rcases hv.feed_cases grants chunk with ⟨e, h⟩ | ⟨b, h, -, hadv, hnot⟩ | ⟨b, r, h, -, hadv⟩ <;>
      rw [h]
    · exact .inl ⟨e, rfl⟩
    · exact .inr (.inl ⟨b, none, rfl, hadv, fun _ hne => hnot (mt (congrArg Call.feed) hne)⟩)
    · exact .inr (.inl ⟨b, some r, rfl, hadv, fun h => absurd h (Option.some_ne_none r)⟩)
  | pop =>
    rw [answer]
    rcases hv.pop_cases grants with ⟨e, h⟩ | ⟨b, h, hadv, hnot⟩ | ⟨b, r, h, hadv⟩ <;> rw [h]
    · exact .inl ⟨e, rfl⟩
    · exact .inr (.inl ⟨b, none, rfl, hadv, fun _ _ => hnot⟩)
    · exact .inr (.inl ⟨b, some r, rfl, hadv, fun h => absurd h (Option.some_ne_none r)⟩)
  | completesWith chunk => exact .inr (.inr ⟨_, rfl⟩)
  | hasComplete => exact .inr (.inr ⟨_, rfl⟩)

theorem Valid.answer_advances (hv : a.Valid) (grants : Allocator) (call : Call) :
    a.Advances (Entry.accepted ⟨call, (a.answer grants call).2⟩)
      (Entry.returned ⟨call, (a.answer grants call).2⟩) (a.answer grants call).1 := by
  rcases hv.answer_cases grants call with ⟨e, h⟩ | ⟨b, first, h, hadv, -⟩ | ⟨yes, h⟩ <;> rw [h]
  · rw [show Entry.accepted ⟨call, .cut (.error e)⟩ = [] by cases call <;> rfl]
    exact .refl hv
  · rw [show Entry.accepted ⟨call, .cut (.ok first)⟩ = call.input by cases call <;> rfl]
    cases first <;> exact hadv
  · rw [show Entry.accepted ⟨call, .foretold yes⟩ = [] by cases call <;> rfl]
    exact .refl hv

theorem Valid.notMem_of_exhausted (hv : a.Valid) (grants : Allocator) (call : Call)
    (h : Entry.Exhausted ⟨call, (a.answer grants call).2⟩) :
    a.terminator ∉ (a.answer grants call).1.held := by
  rcases hv.answer_cases grants call with ⟨e, heq⟩ | ⟨b, first, heq, -, hnot⟩ | ⟨yes, heq⟩ <;>
    rw [heq] at h ⊢
  · cases call <;> exact h.elim
  · cases first with
    | some r => cases call <;> exact h.elim
    | none =>
      refine hnot rfl ?_
      rintro rfl
      exact h rfl
  · cases call <;> exact h.elim

/-- **The account of a run.** -/
theorem Valid.run_advances (hv : a.Valid) (calls : List (Call × Allocator)) :
    a.Advances (accepted (a.run calls).2) (returned (a.run calls).2) (a.run calls).1 := by
  induction calls generalizing a with
  | nil => exact .refl hv
  | cons x calls ih =>
    obtain ⟨call, grants⟩ := x
    have hfirst := hv.answer_advances grants call
    exact hfirst.trans (ih hfirst.valid)

/-- If the last call found no further record, none is left. -/
theorem Valid.notMem_run (hv : a.Valid) {calls : List (Call × Allocator)}
    (h : Exhausted (a.run calls).2) : a.terminator ∉ (a.run calls).1.held := by
  obtain ⟨e, hlast, he⟩ := h
  induction calls generalizing a with
  | nil => exact absurd hlast (by simp [run])
  | cons x calls ih =>
    obtain ⟨call, grants⟩ := x
    have hfirst := hv.answer_advances grants call
    cases calls with
    | nil =>
      obtain rfl : _ = e := Option.some.inj hlast
      exact hv.notMem_of_exhausted grants call he
    | cons y calls =>
      rw [← hfirst.terminator_eq]
      exact ih hfirst.valid (by rw [← hlast]; rfl)

/-! ### The stream law -/

theorem isCut_run (t : UInt8) {calls : List (Call × Allocator)}
    (h : Exhausted ((new t).run calls).2) :
    IsCut t (accepted ((new t).run calls).2) ((returned ((new t).run calls).2).map Record.bytes)
      ((new t).run calls).1.held :=
  ((valid_new t).run_advances calls).isCut ((valid_new t).notMem_run h)

/-- A run whose last call found no further record has given out the pieces of what it took in, and
has the remainder in its buffer. -/
theorem run_of_exhausted (t : UInt8) {calls : List (Call × Allocator)}
    (h : Exhausted ((new t).run calls).2) :
    (returned ((new t).run calls).2).map Record.bytes = pieces t (accepted ((new t).run calls).2) ∧
      ((new t).run calls).1.pending? =
        if remainder t (accepted ((new t).run calls).2) = [] then none
        else some (remainder t (accepted ((new t).run calls).2)) := by
  have hcut := isCut_run t h
  refine ⟨hcut.eq_pieces, ?_⟩
  rw [((valid_new t).run_advances calls).valid.pending?_eq, hcut.eq_remainder]

/-- **The stream law.** What was given out and what is buffered are what was taken in, and every
record is a piece. Once a call finds no further record, the records are all the pieces and the
buffer has the remainder; so two runs that took in the same bytes end alike, however the bytes were
divided into chunks and whatever was refused in between. -/
theorem run_cuts_stream (t : UInt8) (calls : List (Call × Allocator)) :
    concat (returned ((new t).run calls).2) ++ ((new t).run calls).1.held
        = accepted ((new t).run calls).2 ∧
      (∀ r ∈ returned ((new t).run calls).2, IsPiece t r.bytes) ∧
      (Exhausted ((new t).run calls).2 →
        (returned ((new t).run calls).2).map Record.bytes
            = pieces t (accepted ((new t).run calls).2) ∧
          ((new t).run calls).1.pending? =
            if remainder t (accepted ((new t).run calls).2) = [] then none
            else some (remainder t (accepted ((new t).run calls).2))) ∧
      ∀ calls' : List (Call × Allocator),
        Exhausted ((new t).run calls).2 → Exhausted ((new t).run calls').2 →
        accepted ((new t).run calls).2 = accepted ((new t).run calls').2 →
          returned ((new t).run calls).2 = returned ((new t).run calls').2 ∧
            ((new t).run calls).1.pending? = ((new t).run calls').1.pending? := by
  have hrun := (valid_new t).run_advances calls
  refine ⟨hrun.concat_append, hrun.isPiece, run_of_exhausted t, ?_⟩
  intro calls' h h' hsame
  obtain ⟨hrecords, hbuffer⟩ := run_of_exhausted t h
  obtain ⟨hrecords', hbuffer'⟩ := run_of_exhausted t h'
  rw [← hsame] at hrecords' hbuffer'
  refine ⟨?_, hbuffer.trans hbuffer'.symm⟩
  exact (List.map_inj_right fun _ _ => Record.eq_iff_bytes_eq.2).1 (hrecords.trans hrecords'.symm)

/-- Two records and a half in one chunk; a chunk and a pop are refused before the second record is
popped. -/
theorem run_cuts_stream_refused :
    let calls : List (Call × Allocator) :=
      [(.feed [97, 10, 98, 10, 99], .generous), (.feed [100], .refusing 2), (.pop, .refusing 1),
        (.pop, .generous), (.pop, .generous)]
    Exhausted ((new 10).run calls).2 ∧
      (returned ((new 10).run calls).2).map Record.bytes = [[97, 10], [98, 10]] ∧
      ((new 10).run calls).1.pending? = some [99] := by
  intro calls
  have hlast : Exhausted ((new 10).run calls).2 := ⟨_, rfl, trivial⟩
  obtain ⟨hrecords, hbuffer⟩ := (run_cuts_stream 10 calls).2.2.1 hlast
  exact ⟨hlast, hrecords.trans rfl, hbuffer.trans rfl⟩

end Assembler

end RecordRing
