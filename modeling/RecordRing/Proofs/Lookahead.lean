import RecordRing.Proofs.Reading
import RecordRing.Proofs.Refusal
import RecordRing.Proofs.Response

/-!
# Looking ahead

The record that a chunk completes needs the lock, and the lock has to be had before the chunk is
taken in. So a session asks its assembler beforehand whether feeding the chunk would cut a record,
and goes to the lock only if it would. The look-ahead and the cut are two searches of the same
bytes, and a session relies on their agreement: were a record cut that was not foretold, there would
be no store at hand to put it into, and it would be lost.

They agree in every state that calls lead to, whether finished records are buffered or not, and
whatever was refused before. A call that is not refused cuts a record exactly if it was foretold
(`Assembler.Valid.isSome_of_feed`, `isSome_of_pop`), and since a refused call cuts none, nothing is
ever cut that was not.

## Sessions have reachable assemblers

The agreement is stated of assemblers, which may be fed and popped as callers please. That it speaks
of the sessions of a device is `Device.Reachable.assembler`: all that a session does to its
assembler is made of these calls.

## Main results

* `Assembler.Valid.isSome_of_feed`, `isSome_of_pop` — what is foretold is what is cut
* `Session.write_of_feed` — a write puts in what its assembler cuts
* `Device.Reachable.assembler` — the assemblers of sessions
* `Assembler.Reachable.lookahead_exact` — the look-ahead, the cut, and the write
-/

namespace RecordRing

variable {n : Nat}

namespace Assembler

variable {t : UInt8} {a b : Assembler} {grants : Allocator} {chunk : List UInt8}
  {first : Option Record}

/-! ### What is foretold -/

/-- A call that is done cuts a record exactly if there is a terminator among the bytes. -/
theorem Valid.isSome_of_answer (hv : a.Valid) {call : Call} (hne : call ≠ .feed [])
    (h : a.answer grants call = (b, .cut (.ok first))) :
    first.isSome = true ↔ a.terminator ∈ a.held ++ call.input := by
  obtain ⟨-, hfirst⟩ := hv.answer_ok hne h
  rw [← Option.isSome_map, hfirst, List.isSome_head?, Ne, pieces_eq_nil_iff, Decidable.not_not]

/-- **Feeding cuts a record exactly if it was foretold**, unless it is refused. -/
theorem Valid.isSome_of_feed (hv : a.Valid) (h : a.feed grants chunk = (b, .ok first)) :
    first.isSome = a.completesWith chunk := by
  by_cases hchunk : chunk = []
  · subst hchunk
    obtain rfl : none = first := Except.ok.inj (congrArg Prod.snd h)
    rfl
  · have hne : Call.feed chunk ≠ .feed [] := fun heq => hchunk (Call.feed.inj heq)
    rw [Bool.eq_iff_iff, hv.completesWith_iff, and_iff_right hchunk]
    exact hv.isSome_of_answer hne (by rw [answer, h])

/-- **Popping cuts a record exactly if one is buffered**, unless it is refused. -/
theorem Valid.isSome_of_pop (hv : a.Valid) (h : a.pop grants = (b, .ok first)) :
    first.isSome = a.hasComplete := by
  have hne : Call.pop ≠ .feed [] := nofun
  have hpop := hv.isSome_of_answer hne (by rw [answer, h])
  rw [Call.input, List.append_nil] at hpop
  rw [Bool.eq_iff_iff, hv.hasComplete_iff, hpop]

theorem Valid.completesWith_iff_feed (hv : a.Valid) (chunk : List UInt8) :
    a.completesWith chunk = true ↔ ∃ b r, a.feed .generous chunk = (b, .ok (some r)) := by
  constructor
  · intro hforetold
    obtain ⟨b, first, h⟩ := a.feed_generous chunk
    rw [← hv.isSome_of_feed h] at hforetold
    obtain ⟨r, rfl⟩ := Option.isSome_iff_exists.1 hforetold
    exact ⟨b, r, h⟩
  · rintro ⟨b, r, h⟩
    exact (hv.isSome_of_feed h).symm

theorem Valid.hasComplete_iff_pop (hv : a.Valid) :
    a.hasComplete = true ↔ ∃ b r, a.pop .generous = (b, .ok (some r)) := by
  constructor
  · intro hforetold
    obtain ⟨b, first, h⟩ := a.pop_generous
    rw [← hv.isSome_of_pop h] at hforetold
    obtain ⟨r, rfl⟩ := Option.isSome_iff_exists.1 hforetold
    exact ⟨b, r, h⟩
  · rintro ⟨b, r, h⟩
    exact (hv.isSome_of_pop h).symm

end Assembler

namespace Session

variable {s : Session} {store : Store n} {c : Conditions} {chunk : List UInt8} {a : Assembler}
  {r : Record}

/-- **A write puts in what its assembler cuts.** The record that feeding cuts was foretold, so the
write asks for the lock before; with it, the record is put in, and those behind it that can be
cut. Without it, nothing is fed. -/
theorem write_of_feed (hv : s.assembler.Valid)
    (h : s.assembler.feed c.memory chunk = (a, .ok (some r))) (store : Store n) :
    s.writeNeedsLock chunk = true ∧
      (c.lock = .cancelled → s.write store c chunk = s.denied store) ∧
      (c.lock = .granted →
        ∃ s' store' es, s.write store c chunk = ⟨s', store', es, .ok chunk.length⟩ ∧
          s'.assembler = (a.popAll c.memory).1 ∧
          store.Commits (r :: (a.popAll c.memory).2.1) store' es) := by
  have hforetold : s.assembler.completesWith chunk = true := (hv.isSome_of_feed h).symm
  refine ⟨hforetold, ?_⟩
  rcases s.write_outcomes hv store c chunk with
    ⟨rfl, -⟩ | ⟨-, -, hlock, hwrite⟩ |
      ⟨-, hlock, ⟨e, hfed, -⟩ | ⟨b, hfed, -⟩ | ⟨b, r', hfed, hadv, hwrite⟩⟩
  · exact absurd hforetold nofun
  · exact ⟨fun _ => hwrite, fun hgranted => absurd (hlock.symm.trans hgranted) nofun⟩
  · exact absurd (h.symm.trans hfed) (by simp)
  · exact absurd (h.symm.trans hfed) (by simp)
  · obtain ⟨rfl, hr⟩ := Prod.mk.inj (h.symm.trans hfed)
    obtain rfl := Option.some.inj (Except.ok.inj hr)
    refine ⟨fun hcancelled => absurd ((hlock hforetold).symm.trans hcancelled) nofun, fun _ => ?_⟩
    have hfed' : s.assembler.Advances chunk (some r).toList (s.took a chunk).assembler := hadv
    obtain ⟨hall, -⟩ := commitWritten_accounts hfed' store c.memory
    exact ⟨_, _, _, hwrite, rfl, (hall.note rfl rfl).commits⟩

/-- All that a session does to its assembler is to feed it, to pop it, and to reset it. -/
theorem reachable_respond {t : UInt8} (h : s.assembler.Reachable t) (store : Store n)
    (c : Conditions) (call : Call) {s' : Session}
    (hs' : (s.respond store c call).next = some s') : s'.assembler.Reachable t := by
  cases call with
  | write id chunk =>
    obtain rfl : (s.write store c chunk).session = s' := Option.some.inj hs'
    rcases s.write_outcomes h.valid.1 store c chunk with
      ⟨-, hwrite⟩ | ⟨-, -, -, hwrite⟩ |
        ⟨-, -, ⟨e, -, hwrite⟩ | ⟨a, hfed, -, -, hwrite⟩ | ⟨a, r, hfed, -, hwrite⟩⟩ <;>
      rw [hwrite]
    · exact h
    · exact h
    · exact h
    · have ha := h.feed c.memory chunk
      rwa [hfed] at ha
    · have ha := h.feed c.memory chunk
      rw [hfed] at ha
      exact ha.popAll c.memory
  | flush id =>
    obtain rfl : (s.flush store c).session = s' := Option.some.inj hs'
    rw [flush]
    split
    · cases c.lock with
      | cancelled => exact h
      | granted => exact h.popAll c.memory
    · exact h
  | read id count =>
    obtain rfl : (s.read store c count).session = s' := Option.some.inj hs'
    rcases s.read_cases store c count with ⟨e, es, hread⟩ | ⟨bs, es, hread, -⟩ <;> rw [hread] <;>
      exact h
  | seek id origin =>
    obtain rfl : (s.seek store c origin).session = s' := Option.some.inj hs'
    rw [seek]
    cases c.lock with
    | cancelled => exact h
    | granted =>
      cases hmoved : RecordRing.seek s.position store.size origin <;> simp only [hmoved] <;> exact h
  | seekTo id target =>
    obtain rfl : (s.seekTo store c target).session = s' := Option.some.inj hs'
    rw [seekTo]
    cases c.lock with
    | cancelled => exact h
    | granted => cases store.address target.record.toNat target.offset.toNat <;> exact h
  | abandon id =>
    obtain rfl : s.abandon.1 = s' := Option.some.inj hs'
    exact h.reset
  | close id => exact absurd hs'.symm (Option.some_ne_none s')
  | «open» _ | stats | records | contents | shutdown =>
    obtain rfl : s = s' := Option.some.inj hs'
    exact h

end Session

namespace Device

variable {d : Device n} {id : SessionId} {s : Session}

/-- Every session's assembler is reachable. -/
def AssemblersReachable (d : Device n) : Prop :=
  ∀ id s, d.session? id = some s → s.assembler.Reachable d.config.terminator

theorem AssemblersReachable.step (h : d.AssemblersReachable) (c : Conditions) (call : Call) :
    (d.step c call).1.AssemblersReachable := by
  rcases d.step_cases c call with
    ⟨id, s, -, hs, hstep⟩ | ⟨id, -, -, hstep⟩ | ⟨token, -, hstep⟩ | ⟨-, hstep⟩ |
      ⟨-, reply, es, hstep, -⟩ <;>
    rw [hstep]
  · intro j s' hs'
    rw [session?_set hs] at hs'
    split at hs'
    · exact Session.reachable_respond (h id s hs) d.store c call hs'
    · exact h j s' hs'
  · exact h
  · intro j s' hs'
    rw [session?_openSession] at hs'
    split at hs'
    · obtain rfl : Session.new d.config.terminator token = s' := Option.some.inj hs'
      exact .new
    · exact h j s' hs'
  · exact h
  · exact h

/-- **The assemblers of sessions are reachable**, whatever the sessions were asked, and whatever
they were denied. -/
theorem Reachable.assembler (hd : d.Reachable) (hs : d.session? id = some s) :
    s.assembler.Reachable d.config.terminator := by
  have hall : d.AssemblersReachable :=
    hd.preserves (fun _ _ _ hs => absurd hs nofun) fun _ c call h => h.step c call
  exact hall id s hs

end Device

/-! ### The look-ahead -/

/-- **The look-ahead foretells the cut.** In every state that calls lead to, feeding a chunk with
nothing refused cuts a record exactly if it was foretold, and this is so exactly if the chunk has
bytes and there is a terminator among the buffered bytes and those of the chunk. Popping cuts one
exactly if a finished record is said to be buffered, which is so exactly if there is a terminator
among the buffered bytes. Whatever memory is granted, a call that is not refused cuts a record
exactly if it was foretold, so none is cut that was not. Hence a write whose assembler cuts a record
asks for the lock: without it, nothing is fed; with it, that record is put into the store, and every
record that is popped behind it. -/
theorem Assembler.Reachable.lookahead_exact {t : UInt8} {a : Assembler} (h : a.Reachable t)
    (chunk : List UInt8) :
    (a.completesWith chunk = true ↔ ∃ b r, a.feed .generous chunk = (b, .ok (some r))) ∧
    (a.completesWith chunk = true ↔ chunk ≠ [] ∧ t ∈ a.held ++ chunk) ∧
    (a.hasComplete = true ↔ ∃ b r, a.pop .generous = (b, .ok (some r))) ∧
    (a.hasComplete = true ↔ t ∈ a.held) ∧
    (∀ grants b first, a.feed grants chunk = (b, .ok first) →
      first.isSome = a.completesWith chunk) ∧
    (∀ grants b first, a.pop grants = (b, .ok first) → first.isSome = a.hasComplete) ∧
    ∀ {n : Nat} (s : Session) (store : Store n) (c : Conditions) (b : Assembler) (r : Record),
      s.assembler = a → a.feed c.memory chunk = (b, .ok (some r)) →
        s.writeNeedsLock chunk = true ∧
        (c.lock = .cancelled → s.write store c chunk = s.denied store) ∧
        (c.lock = .granted →
          ∃ s' store' es, s.write store c chunk = ⟨s', store', es, .ok chunk.length⟩ ∧
            s'.assembler = (b.popAll c.memory).1 ∧
            store.Commits (r :: (b.popAll c.memory).2.1) store' es) := by
  obtain ⟨hv, rfl⟩ := h.valid
  refine ⟨hv.completesWith_iff_feed chunk, hv.completesWith_iff, hv.hasComplete_iff_pop,
    hv.hasComplete_iff, fun _ _ _ => hv.isSome_of_feed, fun _ _ _ => hv.isSome_of_pop, ?_⟩
  rintro n s store c b r rfl hfed
  exact Session.write_of_feed hv hfed store

/-- Two finished records wait behind a refusal, so a chunk without a terminator cuts the first of
them. Denied the lock, nothing is fed; with it, that record is put in, and the other one waits,
since the memory to cut it is refused once more. -/
theorem Device.lookahead_exact_behind_refusal :
    let calls : List (Call × Conditions) :=
      [(.open ⟨0⟩, .clear), (.write 0 [97, 10, 98, 10, 99, 10, 100], ⟨.granted, .refusing 3⟩)]
    let d : Device 4 := ((⟨.default, .empty, []⟩ : Device 4).run calls).1
    ∃ s, d.Reachable ∧ d.session? 0 = some s ∧ s.assembler.Reachable 10 ∧
      s.assembler.held = [98, 10, 99, 10, 100] ∧ s.assembler.completesWith [101] = true ∧
      (∃ b r, s.assembler.feed .generous [101] = (b, .ok (some r))) ∧
      s.write d.store ⟨.cancelled, .refusing 2⟩ [101] = s.denied d.store ∧
      ∃ s' store' es, s.write d.store ⟨.granted, .refusing 2⟩ [101] = ⟨s', store', es, .ok 1⟩ ∧
        committedBy es = [.ofList [98, 10]] ∧ s'.assembler.held = [99, 10, 100, 101] := by
  intro calls d
  have hreachable : d.Reachable := ⟨.default, _, _, calls, rfl, rfl⟩
  have hterm : d.config.terminator = 10 := by cbv
  have hsome : (d.session? 0).isSome = true := by cbv
  have hheld : (d.session? 0).map (fun s => s.assembler.held) = some [98, 10, 99, 10, 100] := by cbv
  have hfed : (d.session? 0).map (fun s => (s.assembler.feed (.refusing 2) [101]).2) =
      some (.ok (some (.ofList [98, 10]))) := by cbv
  have hrecords : (d.session? 0).map (fun s =>
      ((s.assembler.feed (.refusing 2) [101]).1.popAll (.refusing 2)).2.1) = some [] := by cbv
  have hafter : (d.session? 0).map (fun s =>
      ((s.assembler.feed (.refusing 2) [101]).1.popAll (.refusing 2)).1.held) =
      some [99, 10, 100, 101] := by cbv
  -- nothing below is evaluated
  clear_value d
  obtain ⟨s, hs⟩ := Option.isSome_iff_exists.1 hsome
  rw [hs, Option.map_some, Option.some.injEq] at hheld hfed hrecords hafter
  have ha : s.assembler.Reachable 10 := hterm ▸ hreachable.assembler hs
  obtain ⟨hcuts, hneeds, -, -, -, -, hwrite⟩ := ha.lookahead_exact [101]
  have hforetold : s.assembler.completesWith [101] = true :=
    hneeds.2 ⟨by decide, by rw [hheld]; decide⟩
  obtain ⟨-, hdenied, -⟩ :=
    hwrite s d.store ⟨.cancelled, .refusing 2⟩ _ _ rfl (Prod.ext rfl hfed)
  obtain ⟨-, -, hgranted⟩ :=
    hwrite s d.store ⟨.granted, .refusing 2⟩ _ _ rfl (Prod.ext rfl hfed)
  obtain ⟨s', store', es, hwritten, hleft, hcommits⟩ := hgranted rfl
  exact ⟨s, hreachable, hs, ha, hheld, hforetold, hcuts.1 hforetold, hdenied rfl, s', store', es,
    hwritten, hcommits.committedBy_eq.trans (congrArg _ hrecords),
    (congrArg Assembler.held hleft).trans hafter⟩

end RecordRing
