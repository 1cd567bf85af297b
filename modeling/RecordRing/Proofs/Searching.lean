import RecordRing.Proofs.Refusal

/-!
# What was searched before does not show

An assembler counts the buffered bytes that it has searched, and leaves them out the next time. The
count depends on how the bytes came to be buffered: those behind a record that was cut count as not
searched, those that completed nothing count as searched, and a pop that finds nothing turns the
ones into the others. So there are assemblers that have the same bytes and differ in the count, and
comparing them tells them apart (`Assembler.exists_agrees_eq_false`).

Nothing else does. `Searcher` has the bytes and no count; it goes through all of them, from the
first one on, whenever it is asked. An assembler that is given its memory answers as the searcher of
its bytes does, and has the bytes of that searcher afterwards. Two assemblers with the same bytes
have the same searcher, and this is why they answer alike.

## Main definitions

* `Assembler.Use`, `Assembler.Answer`, `Use.observe` — what is seen of a run
* `Searcher` — an assembler that searches all its bytes each time

## Main results

* `Searcher.cut_of_pieces` — a search of all the bytes cuts the first piece
* `Assembler.Valid.use_searcher` — one call, answered by an assembler and by its searcher
* `Assembler.Valid.observe_searcher` — a run of them
* `Assembler.Reachable.scanned_invisible` — the count does not show in any run
-/

namespace RecordRing

/-! ### Runs -/

namespace Assembler

/-- What is asked of an assembler that is given its memory. -/
inductive Use where
  /-- A call. -/
  | call (call : Call)
  /-- To give its bytes up. -/
  | reset

/-- What it answers. -/
inductive Answer where
  /-- The answer to a call. -/
  | reply (reply : Reply)
  /-- The bytes given up, if there were any. -/
  | gaveUp (bytes : Option (List UInt8))

/-- One use. -/
def use (a : Assembler) : Use → Assembler × Answer
  | .call call =>
    let (a, reply) := a.answer .generous call
    (a, .reply reply)
  | .reset =>
    let (a, bytes) := a.reset
    (a, .gaveUp bytes)

/-- Uses one after the other: what each is answered, and the bytes that are buffered after it. -/
def Use.observe {σ : Type} (use : σ → Use → σ × Answer) (pending? : σ → Option (List UInt8))
    (s : σ) : List Use → List (Answer × Option (List UInt8))
  | [] => []
  | u :: uses =>
    let (s, answer) := use s u
    (answer, pending? s) :: observe use pending? s uses

end Assembler

/-! ### Searching all the bytes -/

/-- A terminator, and bytes of which nothing is known. -/
structure Searcher where
  /-- The byte that ends a record. -/
  terminator : UInt8
  /-- The bytes buffered. -/
  bytes : List UInt8

namespace Searcher

/-- The bytes buffered, or nothing if there are none. -/
def pending? (s : Searcher) : Option (List UInt8) := if s.bytes = [] then none else some s.bytes

/-- Search `bytes` from the first one on. -/
def search? (s : Searcher) (bytes : List UInt8) : Option Nat :=
  bytes.findIdx? (· == s.terminator)

/-- Cut `bytes` behind the first terminator, and buffer the rest. -/
def cut (s : Searcher) (bytes : List UInt8) : Searcher × Option Record :=
  match s.search? bytes with
  | none => ({ s with bytes }, none)
  | some i => ({ s with bytes := bytes.drop (i + 1) }, some (.ofList (bytes.take (i + 1))))

/-- One call. -/
def answer (s : Searcher) : Assembler.Call → Searcher × Assembler.Reply
  | .feed chunk =>
    if chunk.isEmpty then (s, .cut (.ok none))
    else
      let (s, first) := s.cut (s.bytes ++ chunk)
      (s, .cut (.ok first))
  | .pop =>
    let (s, first) := s.cut s.bytes
    (s, .cut (.ok first))
  | .completesWith chunk =>
    (s, .foretold (!chunk.isEmpty && (s.search? (s.bytes ++ chunk)).isSome))
  | .hasComplete => (s, .foretold (s.search? s.bytes).isSome)

/-- One use. -/
def use (s : Searcher) : Assembler.Use → Searcher × Assembler.Answer
  | .call call =>
    let (s, reply) := s.answer call
    (s, .reply reply)
  | .reset => ({ s with bytes := [] }, .gaveUp s.pending?)

theorem isSome_search? {s : Searcher} {bytes : List UInt8} :
    (s.search? bytes).isSome = true ↔ s.terminator ∈ bytes := by
  rw [Option.isSome_iff_ne_none, Ne, search?, findIdx?_beq_eq_none_iff, Decidable.not_not]

/-- **A search of all the bytes cuts the first piece**, and leaves what is behind it. -/
theorem cut_of_pieces {s : Searcher} {bytes rest : List UInt8} {first : Option Record}
    (hfirst : first.map Record.bytes = (pieces s.terminator bytes).head?)
    (hrest : concat first.toList ++ rest = bytes) :
    s.cut bytes = ({ s with bytes := rest }, first) := by
  rw [cut]
  cases hfind : s.search? bytes with
  | none =>
    rw [pieces_of_notMem (findIdx?_beq_eq_none_iff.1 hfind), List.head?_nil,
      Option.map_eq_none_iff] at hfirst
    subst hfirst
    rw [← hrest]
    rfl
  | some i =>
    obtain ⟨hpiece, -⟩ := isPiece_take_of_findIdx? hfind
    rw [← List.take_append_drop (i + 1) bytes, pieces_piece_append hpiece, List.head?_cons]
      at hfirst
    obtain ⟨r, rfl, hr⟩ := Option.map_eq_some_iff.1 hfirst
    rw [Option.toList_some, concat_cons, concat_nil, List.append_nil, hr] at hrest
    have hdrop : rest = bytes.drop (i + 1) :=
      List.append_cancel_left (hrest.trans (List.take_append_drop (i + 1) bytes).symm)
    dsimp only
    rw [hdrop, ← hr, Record.ofList_bytes]

end Searcher

namespace Assembler

variable {t : UInt8} {a b : Assembler}

/-! ### The searcher of an assembler -/

/-- The assembler without its count, and without the room that it has. -/
def searcher (a : Assembler) : Searcher := ⟨a.terminator, a.held⟩

theorem Valid.pending?_searcher (hv : a.Valid) : a.searcher.pending? = a.pending? :=
  hv.pending?_eq.symm

/-- A call that cuts the first piece, if there is one, does what the searcher does. -/
theorem Valid.cut_searcher (hv : a.Valid) {call : Call} (hne : call ≠ .feed [])
    {first : Option Record} (h : a.answer .generous call = (b, .cut (.ok first))) :
    b.Valid ∧ a.searcher.cut (a.held ++ call.input) = (b.searcher, first) := by
  obtain ⟨hadv, hfirst⟩ := hv.answer_ok hne h
  refine ⟨hadv.valid, ?_⟩
  rw [Searcher.cut_of_pieces hfirst hadv.concat_append, searcher, searcher, hadv.terminator_eq]

theorem Valid.cut_of_feed (hv : a.Valid) {chunk : List UInt8} (hchunk : chunk ≠ [])
    {first : Option Record} (h : a.feed .generous chunk = (b, .ok first)) :
    b.Valid ∧ a.searcher.cut (a.searcher.bytes ++ chunk) = (b.searcher, first) := by
  have hne : Call.feed chunk ≠ .feed [] := fun heq => hchunk (Call.feed.inj heq)
  exact hv.cut_searcher hne (by rw [answer, h])

theorem Valid.cut_of_pop (hv : a.Valid) {first : Option Record}
    (h : a.pop .generous = (b, .ok first)) :
    b.Valid ∧ a.searcher.cut a.searcher.bytes = (b.searcher, first) := by
  have hne : Call.pop ≠ .feed [] := nofun
  have hpop := hv.cut_searcher hne (by rw [answer, h])
  rwa [Call.input, List.append_nil] at hpop

/-- **A call is answered as the searcher answers it**, and so is the next one. -/
theorem Valid.answer_searcher (hv : a.Valid) (call : Call) :
    (a.answer .generous call).1.Valid ∧
      a.searcher.answer call =
        ((a.answer .generous call).1.searcher, (a.answer .generous call).2) := by
  cases call with
  | feed chunk =>
    by_cases hchunk : chunk = []
    · subst hchunk
      exact ⟨hv, rfl⟩
    · obtain ⟨b, first, h⟩ := a.feed_generous chunk
      obtain ⟨hb, hcut⟩ := hv.cut_of_feed hchunk h
      rw [answer, h, Searcher.answer, if_neg (mt List.isEmpty_iff.1 hchunk), hcut]
      exact ⟨hb, rfl⟩
  | pop =>
    obtain ⟨b, first, h⟩ := a.pop_generous
    obtain ⟨hb, hcut⟩ := hv.cut_of_pop h
    rw [answer, h, Searcher.answer, hcut]
    exact ⟨hb, rfl⟩
  | completesWith chunk =>
    have hforetold : a.completesWith chunk =
        (!chunk.isEmpty && (a.searcher.search? (a.searcher.bytes ++ chunk)).isSome) := by
      rw [Bool.eq_iff_iff, hv.completesWith_iff, Bool.and_eq_true, Searcher.isSome_search?,
        Bool.not_eq_true', List.isEmpty_eq_false_iff]
      rfl
    rw [answer, hforetold]
    exact ⟨hv, rfl⟩
  | hasComplete =>
    have hforetold : a.hasComplete = (a.searcher.search? a.searcher.bytes).isSome := by
      rw [Bool.eq_iff_iff, hv.hasComplete_iff, Searcher.isSome_search?]
      rfl
    rw [answer, hforetold]
    exact ⟨hv, rfl⟩

theorem Valid.use_searcher (hv : a.Valid) (u : Use) :
    (a.use u).1.Valid ∧ a.searcher.use u = ((a.use u).1.searcher, (a.use u).2) := by
  cases u with
  | call call =>
    obtain ⟨hv', hanswer⟩ := hv.answer_searcher call
    refine ⟨hv', ?_⟩
    rw [Searcher.use, hanswer]
    rfl
  | reset =>
    refine ⟨valid_of_scanned_eq_zero nofun rfl, ?_⟩
    rw [Searcher.use, hv.pending?_searcher]
    rfl

/-- **A run is seen as that of the searcher.** -/
theorem Valid.observe_searcher (hv : a.Valid) (uses : List Use) :
    Use.observe use pending? a uses =
      Use.observe Searcher.use Searcher.pending? a.searcher uses := by
  induction uses generalizing a with
  | nil => rfl
  | cons u uses ih =>
    obtain ⟨hv', huse⟩ := hv.use_searcher u
    rw [Use.observe, Use.observe, huse]
    dsimp only
    rw [hv'.pending?_searcher, ih hv']

/-! ### The count -/

/-- What is behind a record was not searched. -/
theorem scanned_of_feed {grants : Allocator} {chunk : List UInt8} {r : Record}
    (h : a.feed grants chunk = (b, .ok (some r))) : b.scanned = 0 := by
  rw [feed] at h
  split at h
  · exact absurd (Prod.mk.inj h).2 (by simp)
  · cases hstop : a.cutEnd? chunk with
    | none =>
      simp only [hstop, append] at h
      split at h <;> exact absurd (Prod.mk.inj h).2 (by simp)
    | some stop =>
      simp only [hstop, cut] at h
      split at h
      · exact absurd (Prod.mk.inj h).2 (by simp)
      · split at h
        · exact absurd (Prod.mk.inj h).2 (by simp)
        · rw [← (Prod.mk.inj h).1]

/-- A pop that finds nothing among bytes that were not searched before leaves the bytes as they are,
and counts them. -/
theorem agrees_of_pop {grants : Allocator} (h : a.pop grants = (b, .ok none))
    (hlt : a.scanned < a.heldSize) : a.pending? = b.pending? ∧ a.agrees b = false := by
  rw [pop_eq] at h
  cases hp : a.pending with
  | none =>
    rw [heldSize, hp] at hlt
    exact absurd hlt (Nat.not_lt_zero _)
  | some buffer =>
    have hsize : a.heldSize = buffer.size := by simp [heldSize, hp]
    rw [hp] at h
    cases hstop : a.cutEnd? [] with
    | none =>
      rw [hstop] at h
      obtain rfl : ⟨a.terminator, some buffer, buffer.size⟩ = b := (Prod.mk.inj h).1
      have hne : (a.scanned == buffer.size) = false := by
        rw [beq_eq_false_iff_ne]
        omega
      exact ⟨by rw [pending?, hp, pending?], by simp [agrees, hne]⟩
    | some stop =>
      rw [hstop] at h
      dsimp only at h
      split at h <;> exact absurd (Prod.mk.inj h).2 (by simp)

/-- **There are two assemblers that have the same bytes buffered, and differ**: the bytes behind a
record are not searched before a pop finds nothing in them. -/
theorem exists_agrees_eq_false (t : UInt8) :
    ∃ a b, Reachable t a ∧ Reachable t b ∧ a.pending? = b.pending? ∧ a.agrees b = false := by
  have hpiece : IsPiece t [t] := ⟨[], List.not_mem_nil, rfl⟩
  have hnot : t ∉ [t + 1] := by simp
  -- a record is cut, and one byte is behind it
  obtain ⟨a, first, hfed⟩ := (new t).feed_generous [t, t + 1]
  have ha : Reachable t a := by
    have h : Reachable t ((new t).feed .generous [t, t + 1]).1 := Reachable.new.feed _ _
    rwa [hfed] at h
  have hfirst : (new t).searcher.cut [t, t + 1] = (⟨t, [t + 1]⟩, some (.ofList [t])) :=
    Searcher.cut_of_pieces (congrArg List.head? (pieces_piece_append hpiece [t + 1])).symm rfl
  obtain ⟨hv, hcut⟩ := (valid_new t).cut_of_feed (by simp) hfed
  obtain ⟨hsearcher, rfl⟩ := Prod.mk.inj (hcut.symm.trans hfirst)
  have hsize : a.heldSize = 1 := by
    rw [heldSize_eq_length]
    exact congrArg (fun s => s.bytes.length) hsearcher
  -- a pop finds nothing in it
  obtain ⟨b, first, hpop⟩ := a.pop_generous
  have hb : Reachable t b := by
    have h := ha.pop .generous
    rwa [hpop] at h
  have hnone : a.searcher.cut a.searcher.bytes = (⟨t, [t + 1]⟩, none) := by
    rw [hsearcher]
    exact Searcher.cut_of_pieces (congrArg List.head? (pieces_of_notMem hnot)).symm rfl
  obtain ⟨-, hcut⟩ := hv.cut_of_pop hpop
  obtain ⟨-, rfl⟩ := Prod.mk.inj (hcut.symm.trans hnone)
  exact ⟨a, b, ha, hb, agrees_of_pop hpop (by rw [scanned_of_feed hfed, hsize]; decide)⟩

/-- **What was searched before does not show.** Two assemblers that calls, resets and copies lead
to, whatever was refused on the way, and that have the same terminator and the same bytes buffered,
answer alike from there on, and have the same bytes buffered after each call, whatever they are
asked as long as they are given their memory. The answers and the bytes are those of an assembler
that searches all its bytes, from the first one on, each time. Comparing the two assemblers may
nevertheless tell them apart. -/
theorem Reachable.scanned_invisible (ha : Reachable t a) (hb : Reachable t b)
    (hbytes : a.pending? = b.pending?) (uses : List Use) :
    Use.observe use pending? a uses = Use.observe use pending? b uses ∧
    Use.observe use pending? a uses =
      Use.observe Searcher.use Searcher.pending? ⟨t, a.held⟩ uses ∧
    ∃ a' b', Reachable t a' ∧ Reachable t b' ∧ a'.pending? = b'.pending? ∧
      a'.agrees b' = false := by
  obtain ⟨hva, rfl⟩ := ha.valid
  obtain ⟨hvb, hterm⟩ := hb.valid
  have hsearcher : b.searcher = a.searcher := by
    rw [searcher, searcher, hterm, held, held, hbytes]
  refine ⟨?_, hva.observe_searcher uses, exists_agrees_eq_false _⟩
  rw [hva.observe_searcher, hvb.observe_searcher, hsearcher]

/-- Two bytes that were searched when a longer chunk was refused, and the same two bytes behind a
record, where they were not. -/
theorem scanned_invisible_after_refusal :
    let uses : List Use := [.call (.completesWith [10]), .call (.feed [99]),
      .call (.feed [10, 100, 10]), .call .hasComplete, .call .pop, .reset]
    ∃ a b, Reachable 10 a ∧ Reachable 10 b ∧ a.pending? = some [97, 98] ∧
      b.pending? = some [97, 98] ∧ a.scanned = 2 ∧ b.scanned = 0 ∧ a.agrees b = false ∧
      Use.observe use pending? a uses = Use.observe use pending? b uses ∧
      (Use.observe use pending? a uses).map Prod.snd =
        [some [97, 98], some [97, 98, 99], some [100, 10], some [100, 10], none, none] := by
  intro uses
  let a : Assembler :=
    (((new 10).answer .generous (.feed [97, 98])).1.answer (.refusing 1) (.feed [99, 10, 100])).1
  let b : Assembler := ((new 10).answer .generous (.feed [120, 10, 97, 98])).1
  have ha : Reachable 10 a := .answer (.answer .new .generous _) (.refusing 1) _
  have hb : Reachable 10 b := .answer .new .generous _
  have hpending : a.pending? = some [97, 98] := by cbv
  have hpending' : b.pending? = some [97, 98] := by cbv
  have hscanned : a.scanned = 2 := by cbv
  have hscanned' : b.scanned = 0 := by cbv
  have hagrees : a.agrees b = false := by cbv
  -- nothing below is evaluated
  clear_value a b
  obtain ⟨hsame, hsearched, -⟩ := ha.scanned_invisible hb (hpending.trans hpending'.symm) uses
  have hheld : a.held = [97, 98] := by rw [held, hpending, Option.getD_some]
  refine ⟨a, b, ha, hb, hpending, hpending', hscanned, hscanned', hagrees, hsame, ?_⟩
  rw [hsearched, hheld]
  rfl

end Assembler

end RecordRing
