import RecordRing.Proofs.Addressing
import RecordRing.Proofs.Sequential

/-!
# Where a session is after it was moved

A session is moved in two ways: to a number of bytes from the start, from where it is or from the
end, and to a byte named by its record. The first is allowed from `0` to the end of the data, and
the second to any retained byte; whatever else is asked for is refused, and nothing has changed
then. Neither looks at what the session has buffered, nor at where it is now, unless the move is
from there. So a position past the end, which evictions and writes leave behind, is no special case.

What a move is good for is what is read afterwards. `Device.ReadsOut` says it of all the reads that
follow, whatever room they have. It is shown once, of a session anywhere in the data, and the
two moves then differ in where this is.

## Words

Targets are computed over all integers here. `seekInWords?` is the same computation with numbers of
64 and 128 bits, and fails where one is too small to hold a value. It never fails: the sum of two
numbers of 64 bits, one with and one without a sign, is far from the bounds of 128.

## Main definitions

* `wide?`, `word?`, `Origin.wideTarget?`, `seekInWords?` — targets computed in words
* `Device.ReadsOut` — what is read from where a session is

## Main results

* `seekInWords?_eq` — no value is too large for its word
* `Device.readsOut` — reading on from any position
* `Device.seek_within_bounds` — moving by a number of bytes
* `Device.seekTo_lands` — moving to a byte of a record
-/

namespace RecordRing

variable {n : Nat}

/-! ### Targets in words -/

/-- A number as one of 128 bits with a sign, if it is one. -/
def wide? (x : Int) : Option Int := if -2 ^ 127 ≤ x ∧ x < 2 ^ 127 then some x else none

/-- A number as one of 64 bits without a sign, if it is one. -/
def word? (x : Int) : Option Nat := if 0 ≤ x ∧ x < 2 ^ 64 then some x.toNat else none

/-- The sum of a number without and one with a sign, each widened before. -/
def wideSum? (base : Nat) (delta : Int) : Option Int := do
  let base ← wide? base
  let delta ← wide? delta
  wide? (base + delta)

/-- The number by which a position is to be moved is one of 64 bits: without a sign from the start,
and with one from elsewhere. -/
def Origin.InWord : Origin → Prop
  | .start offset => offset < 2 ^ 64
  | .current delta | .fromEnd delta => -2 ^ 63 ≤ delta ∧ delta < 2 ^ 63

/-- The target, from a position in data of `size` bytes, with 128 bits for every value. -/
def Origin.wideTarget? (position size : Nat) : Origin → Option Int
  | .start offset => wide? offset
  | .current delta => wideSum? position delta
  | .fromEnd delta => wideSum? size delta

/-- The new position in data of `size` bytes, computed in words. -/
def seekInWords? (position size : Nat) (origin : Origin) : Option (Except SeekError Nat) := do
  let target ← origin.wideTarget? position size
  match (word? target).filter (· ≤ size) with
  | some position => some (.ok position)
  | none => some (.error (.outOfBounds target size))

section Words

variable {position size : Nat} {origin : Origin}

theorem wide?_eq {x : Int} (h : -2 ^ 127 ≤ x ∧ x < 2 ^ 127) : wide? x = some x := if_pos h

theorem wideSum?_eq {base : Nat} {delta : Int} (hbase : base < 2 ^ 64)
    (hdelta : -2 ^ 63 ≤ delta ∧ delta < 2 ^ 63) : wideSum? base delta = some (base + delta) := by
  have hsum : wide? (base + delta) = some (base + delta) := wide?_eq (by omega)
  rw [wideSum?, wide?_eq (by omega : -2 ^ 127 ≤ (base : Int) ∧ (base : Int) < 2 ^ 127),
    wide?_eq (by omega : -2 ^ 127 ≤ delta ∧ delta < 2 ^ 127)]
  exact hsum

theorem Origin.wideTarget?_eq (horigin : origin.InWord) (hposition : position < 2 ^ 64)
    (hsize : size < 2 ^ 64) :
    origin.wideTarget? position size = some (origin.target position size) := by
  cases origin with
  | start offset =>
    simp only [InWord] at horigin
    exact wide?_eq (by omega)
  | current delta => exact wideSum?_eq hposition horigin
  | fromEnd delta => exact wideSum?_eq hsize horigin

/-- A target inside the data is a number of 64 bits, as their size is one. -/
theorem filter_word? (hsize : size < 2 ^ 64) (target : Int) :
    (word? target).filter (· ≤ size) =
      if 0 ≤ target ∧ target ≤ size then some target.toNat else none := by
  rw [word?]
  split
  · rw [Option.filter_some]
    congr 1
    simp only [decide_eq_true_eq, eq_iff_iff]
    omega
  · rw [if_neg (by omega)]
    rfl

/-- **No value is too large for its word**, and the new position is the one that is computed over
all integers. -/
theorem seekInWords?_eq (horigin : origin.InWord) (hposition : position < 2 ^ 64)
    (hsize : size < 2 ^ 64) :
    seekInWords? position size origin = some (seek position size origin) := by
  rw [seekInWords?, Origin.wideTarget?_eq horigin hposition hsize, Option.bind_eq_bind,
    Option.bind_some, filter_word? hsize, seek]
  by_cases hinside : 0 ≤ origin.target position size ∧ origin.target position size ≤ size
  · rw [if_pos hinside, if_pos hinside]
  · rw [if_neg hinside, if_neg hinside]

end Words

/-! ### Moving a session -/

namespace Session

variable {c : Conditions} {s : Session} {store : Store n}

/-- The bytes of a record that a read copies: those behind the position, as far as there is room. -/
theorem read_of_locate (hc : c.lock = .granted) {count : Nat} (hcount : 0 < count) {p : Position}
    (hp : store.locate? s.position = some p) :
    let k := min count (p.record.size - p.offset)
    s.read store c count =
      ⟨{ s with position := s.position + k }, store, [.readCopied k (s.position + k)],
        .ok ((p.record.bytes.drop p.offset).take k)⟩ := by
  intro k
  have hrest : p.remaining.length = p.record.size - p.offset := by
    rw [Position.remaining, List.length_drop, Record.length_bytes]
  have hbytes : p.remainingUpTo count = (p.record.bytes.drop p.offset).take k := by
    rw [p.remainingUpTo_eq, List.take_eq_take_min, hrest]
    rfl
  have hlen : (p.remainingUpTo count).length = k := by
    rw [p.remainingUpTo_eq, List.length_take, hrest]
  rw [read, if_neg (Nat.ne_of_gt hcount), hc]
  simp only [hp]
  rw [hlen, hbytes]

theorem seek_of_le (hc : c.lock = .granted) {origin : Origin} {k : Nat}
    (hk : (k : Int) = origin.target s.position store.size) (hle : k ≤ store.size) :
    s.seek store c origin =
      ⟨{ s with position := k }, store, [.sought origin k store.size], .ok k⟩ := by
  have hmoved : RecordRing.seek s.position store.size origin = .ok k := by
    rw [RecordRing.seek, ← hk]
    simp [hle]
  rw [seek, hc]
  simp only [hmoved]

theorem seek_of_outside (hc : c.lock = .granted) {origin : Origin}
    (h : ¬ (0 ≤ origin.target s.position store.size ∧
      origin.target s.position store.size ≤ store.size)) :
    s.seek store c origin =
      ⟨s, store, [], .error (.seek (.outOfBounds (origin.target s.position store.size)
        store.size))⟩ := by
  have hrefused : RecordRing.seek s.position store.size origin =
      .error (.outOfBounds (origin.target s.position store.size) store.size) := if_neg h
  rw [seek, hc]
  simp only [hrefused]

theorem seekTo_of_ok (hc : c.lock = .granted) {target : SeekTo} {x : Nat}
    (h : store.address target.record.toNat target.offset.toNat = .ok x) :
    s.seekTo store c target =
      ⟨{ s with position := x }, store, [.soughtRecord target x], .ok x⟩ := by
  rw [seekTo, hc]
  simp only [h]

theorem seekTo_of_error (hc : c.lock = .granted) {target : SeekTo} {e : LookupError}
    (h : store.address target.record.toNat target.offset.toNat = .error e) :
    s.seekTo store c target = ⟨s, store, [], .error (.lookup e)⟩ := by
  rw [seekTo, hc]
  simp only [h]

end Session

namespace Device

variable {d : Device n} {id : SessionId} {s : Session} {c : Conditions}

/-! ### Reading on from a position -/

/-- What is read from where session `id` is, as long as nothing else happens, is `bs`. -/
structure ReadsOut (d : Device n) (id : SessionId) (bs : List UInt8) : Prop where
  /-- Every read is answered with bytes. -/
  answered : ∀ calls, (∀ x ∈ calls, Call.ReadsOn id x) →
    ∀ e ∈ (d.run calls).2, e.reply = .bytes e.bytesRead
  /-- Together they are the first of `bs`. -/
  isPrefix : ∀ calls, (∀ x ∈ calls, Call.ReadsOn id x) →
    (d.run calls).2.flatMap Entry.bytesRead <+: bs
  /-- If there are more reads than bytes, one gives nothing. -/
  ends : ∀ calls, (∀ x ∈ calls, Call.ReadsOn id x) → bs.length < calls.length →
    ∃ e ∈ (d.run calls).2, e.bytesRead = []
  /-- Once one gives nothing, they have given all. -/
  complete : ∀ calls, (∀ x ∈ calls, Call.ReadsOn id x) →
    (∃ e ∈ (d.run calls).2, e.bytesRead = []) → (d.run calls).2.flatMap Entry.bytesRead = bs

theorem reply_of_readsOn {calls : List (Call × Conditions)} (hs : d.session? id = some s)
    (hcalls : ∀ x ∈ calls, Call.ReadsOn id x) :
    ∀ e ∈ (d.run calls).2, e.reply = .bytes e.bytesRead := by
  induction calls generalizing d s with
  | nil => intro e he; exact absurd he List.not_mem_nil
  | cons x calls ih =>
    obtain ⟨call, c⟩ := x
    obtain ⟨⟨hc, count, hcount, rfl⟩, hrest⟩ := List.forall_mem_cons.1 hcalls
    obtain ⟨k, es, -, hstep⟩ := step_read_moved hs hc hcount
    intro e he
    rw [run_cons, entry, hstep] at he
    rcases List.mem_cons.1 he with rfl | hmem
    · rfl
    · exact ih (session?_movedTo hs _) hrest e hmem

/-- **Reading on from any position** gives what the contents have from there on, which is nothing
past the end. -/
theorem readsOut (hs : d.session? id = some s) :
    d.ReadsOut id (d.store.contents.drop s.position) where
  answered calls hcalls := reply_of_readsOn hs hcalls
  isPrefix calls hcalls := by
    obtain ⟨texts, idle, hlog, -, hcopied, -⟩ := run_readsOn hs hcalls
    rwa [List.flatMap_def, hlog, List.flatten_append, List.flatten_replicate_nil, List.append_nil]
  ends calls hcalls hmany := by
    obtain ⟨texts, idle, hlog, hne, hcopied, -⟩ := run_readsOn hs hcalls
    have htexts : texts.length ≤ texts.flatten.length := length_le_length_flatten hne
    have hall : texts.flatten.length ≤ (d.store.contents.drop s.position).length :=
      hcopied.length_le
    have hlen := congrArg List.length hlog
    rw [List.length_map, length_run, List.length_append, List.length_replicate] at hlen
    have hidle : idle ≠ 0 := by omega
    have hmem : [] ∈ (d.run calls).2.map Entry.bytesRead := by
      rw [hlog]
      exact List.mem_append_right _ (List.mem_replicate.2 ⟨hidle, rfl⟩)
    exact List.mem_map.1 hmem
  complete calls hcalls hend := by
    obtain ⟨texts, idle, hlog, hne, -, hdone, -⟩ := run_readsOn hs hcalls
    have hmem : [] ∈ (d.run calls).2.map Entry.bytesRead := List.mem_map.2 hend
    rw [hlog] at hmem
    have hidle : 0 < idle := by
      rcases List.mem_append.1 hmem with htext | hnothing
      · exact absurd rfl (hne [] htext)
      · exact Nat.pos_of_ne_zero (List.mem_replicate.1 hnothing).1
    rw [List.flatMap_def, hlog, List.flatten_append, List.flatten_replicate_nil, List.append_nil]
    exact hdone hidle

theorem readsOut_movedTo (hs : d.session? id = some s) (position : Nat) :
    (d.movedTo id s position).ReadsOut id (d.store.contents.drop position) :=
  readsOut (session?_movedTo hs position)

/-! ### Moving by a number of bytes -/

theorem step_seek_of_le (hs : d.session? id = some s) (hc : c.lock = .granted) {origin : Origin}
    {k : Nat} (hk : (k : Int) = origin.target s.position d.store.size) (hle : k ≤ d.store.size) :
    d.step c (.seek id origin) =
      (d.movedTo id s k, .number k, [.sought origin k d.store.size]) := by
  rw [step_of_session rfl hs, Session.respond, Session.seek_of_le hc hk hle]
  rfl

/-- A call that leaves its session and the store as they were leaves the device as it was. -/
theorem step_of_response_eq (hs : d.session? id = some s) {call : Call}
    (hid : call.session? = some id) {reply : Reply}
    (h : s.respond d.store c call = ⟨some s, d.store, reply, []⟩) :
    d.step c call = (d, reply, []) := by
  rw [step_of_session hid hs, h]
  simp only [sessions_set_self hs]

theorem step_seek_of_outside (hs : d.session? id = some s) (hc : c.lock = .granted)
    {origin : Origin}
    (h : ¬ (0 ≤ origin.target s.position d.store.size ∧
      origin.target s.position d.store.size ≤ d.store.size)) :
    d.step c (.seek id origin) =
      (d, .failed (.seek (.outOfBounds (origin.target s.position d.store.size) d.store.size)),
        []) := by
  refine step_of_response_eq hs rfl ?_
  rw [Session.respond, Session.seek_of_outside hc h]
  rfl

/-- **Moving by a number of bytes.** The target is `0`, the position or the size, and the number. A
session is moved to it if it is in the data or at their end, and answered with it, and only then.
Nothing else has changed then, and reading on gives what the contents have from there on.
Everything else is refused, with the target and the size, and nothing has changed. This is so for
every device and wherever the session is, in the data or past them. And where the position and the
size are numbers of 64 bits, computing in words comes to the same. -/
theorem seek_within_bounds (hs : d.session? id = some s) (hc : c.lock = .granted)
    (origin : Origin) :
    let size := d.store.size
    let target := origin.target s.position size
    (∀ k : Nat, (d.step c (.seek id origin)).2.1 = .number k ↔ (k : Int) = target ∧ k ≤ size) ∧
    (∀ k : Nat, (k : Int) = target → k ≤ size →
      d.step c (.seek id origin) = (d.movedTo id s k, .number k, [.sought origin k size]) ∧
      (d.movedTo id s k).ReadsOut id (d.store.contents.drop k)) ∧
    (¬ (0 ≤ target ∧ target ≤ size) →
      d.step c (.seek id origin) = (d, .failed (.seek (.outOfBounds target size)), [])) ∧
    (origin.InWord → s.position < 2 ^ 64 → size < 2 ^ 64 →
      seekInWords? s.position size origin = some (seek s.position size origin)) := by
  intro size target
  refine ⟨fun k => ⟨fun hreply => ?_, fun ⟨hk, hle⟩ => ?_⟩, fun k hk hle => ⟨?_, ?_⟩, ?_, ?_⟩
  · by_cases hinside : 0 ≤ target ∧ target ≤ size
    · have htarget : (target.toNat : Int) = target := Int.toNat_of_nonneg hinside.1
      have hle : target.toNat ≤ size := by omega
      rw [step_seek_of_le hs hc htarget hle] at hreply
      obtain rfl : target.toNat = k := Reply.number.inj hreply
      exact ⟨htarget, hle⟩
    · rw [step_seek_of_outside hs hc hinside] at hreply
      exact absurd hreply nofun
  · rw [step_seek_of_le hs hc hk hle]
  · exact step_seek_of_le hs hc hk hle
  · exact readsOut_movedTo hs k
  · exact step_seek_of_outside hs hc
  · exact seekInWords?_eq

/-- A session that is past the end, since the store was emptied, and is moved back by four bytes,
and then by as many as a word can say. -/
theorem seek_within_bounds_past_end :
    let calls : List (Call × Conditions) :=
      [(.open ⟨0⟩, .clear), (.write 0 [97, 98, 10, 99], .clear), (.shutdown, .clear),
        (.write 0 [10], .clear)]
    let d : Device 2 := ((⟨.default, .empty, []⟩ : Device 2).run calls).1
    ∃ s, d.session? 0 = some s ∧ Conditions.clear.lock = .granted ∧ s.position = 5 ∧
      d.store.size = 2 ∧
      d.step .clear (.seek 0 (.current (-4))) =
        (d.movedTo 0 s 1, .number 1, [.sought (.current (-4)) 1 2]) ∧
      (d.movedTo 0 s 1).ReadsOut 0 [10] ∧
      (Origin.current (-2 ^ 63)).InWord ∧
      d.step .clear (.seek 0 (.current (-2 ^ 63))) =
        (d, .failed (.seek (.outOfBounds (5 + -2 ^ 63) 2)), []) ∧
      seekInWords? 5 2 (.current (-2 ^ 63)) = some (seek 5 2 (.current (-2 ^ 63))) := by
  intro calls d
  let s : Session := ⟨.new 10, 5, ⟨0⟩⟩
  have hs : d.session? 0 = some s := by cbv
  have hsize : d.store.size = 2 := by cbv
  have hcontents : d.store.contents.drop 1 = [10] := by cbv
  -- nothing below is evaluated
  clear_value d
  obtain ⟨-, hmoved, -, -⟩ := seek_within_bounds hs (c := .clear) rfl (.current (-4))
  obtain ⟨-, -, hrefused, hwords⟩ := seek_within_bounds hs (c := .clear) rfl (.current (-2 ^ 63))
  rw [hsize] at hmoved hrefused hwords
  obtain ⟨hstep, hreads⟩ := hmoved 1 rfl (by decide)
  rw [hcontents] at hreads
  have hword : (Origin.current (-2 ^ 63)).InWord := ⟨by decide, by decide⟩
  exact ⟨s, hs, rfl, rfl, hsize, hstep, hreads, hword, hrefused (by decide),
    hwords hword (by decide) (by decide)⟩

/-! ### Moving to a byte of a record -/

theorem step_seekTo_of_ok (hs : d.session? id = some s) (hc : c.lock = .granted) {target : SeekTo}
    {x : Nat} (h : d.store.address target.record.toNat target.offset.toNat = .ok x) :
    d.step c (.seekTo id target) = (d.movedTo id s x, .number x, [.soughtRecord target x]) := by
  rw [step_of_session rfl hs, Session.respond, Session.seekTo_of_ok hc h]
  rfl

theorem step_seekTo_of_error (hs : d.session? id = some s) (hc : c.lock = .granted)
    {target : SeekTo} {e : LookupError}
    (h : d.store.address target.record.toNat target.offset.toNat = .error e) :
    d.step c (.seekTo id target) = (d, .failed (.lookup e), []) := by
  refine step_of_response_eq hs rfl ?_
  rw [Session.respond, Session.seekTo_of_error hc h]
  rfl

/-- A read of a session that is at a byte of a record copies from this record alone. -/
theorem step_read_of_locate (hs : d.session? id = some s) (hc : c.lock = .granted) {count : Nat}
    (hcount : 0 < count) {p : Position} (hp : d.store.locate? s.position = some p) :
    let k := min count (p.record.size - p.offset)
    d.step c (.read id count) =
      (d.movedTo id s (s.position + k), .bytes ((p.record.bytes.drop p.offset).take k),
        [.readCopied k (s.position + k)]) := by
  intro k
  rw [step_of_session rfl hs, Session.respond, Session.read_of_locate hc hcount hp]
  rfl

/-- **Moving to a byte of a record.** If there is such a record, and it has such a byte, the session
is moved to where the byte is in the contents, and answered with it; nothing else has changed then.
Wherever the session is still there and the store is what it was, a read copies the record from
the byte on, as far as there is room, and reading on gives the rest of the record and all records
behind it. Moving the session by as many bytes from the start leads to the same device. If there is
no such record, or it has no such byte, the answer says so, and nothing has changed. -/
theorem seekTo_lands (hn : 0 < n) (hd : d.Reachable) (hs : d.session? id = some s)
    (hc : c.lock = .granted) (target : SeekTo) :
    let rs := d.store.toList
    let i := target.record.toNat
    let o := target.offset.toNat
    (∀ r, rs[i]? = some r → o < r.size → ∃ x, x = totalSize (rs.take i) + o ∧
      d.step c (.seekTo id target) = (d.movedTo id s x, .number x, [.soughtRecord target x]) ∧
      (∀ (d' : Device n) s', d'.store = d.store → d'.session? id = some s' → s'.position = x →
        (∀ (c' : Conditions) (count : Nat), c'.lock = .granted → 0 < count →
          let k := min count (r.size - o)
          d'.step c' (.read id count) =
            (d'.movedTo id s' (x + k), .bytes ((r.bytes.drop o).take k),
              [.readCopied k (x + k)])) ∧
        d'.ReadsOut id (r.bytes.drop o ++ concat (rs.drop (i + 1)))) ∧
      ∀ c' : Conditions, c'.lock = .granted →
        d.step c' (.seek id (.start x)) =
          (d.movedTo id s x, .number x, [.sought (.start x) x d.store.size])) ∧
    (rs.length ≤ i →
      d.step c (.seekTo id target) =
        (d, .failed (.lookup (.recordOutOfRange i rs.length)), [])) ∧
    ∀ r, rs[i]? = some r → r.size ≤ o →
      d.step c (.seekTo id target) =
        (d, .failed (.lookup (.offsetOutOfRange i o r.size)), []) := by
  intro rs i o
  obtain ⟨q, hq, -⟩ := hd.retainsPieces hn
  have hrs : rs = q := hq.toList_eq
  rw [hrs]
  refine ⟨fun r hr ho => ?_, fun hle => ?_, fun r hr hle => ?_⟩
  · obtain ⟨x, hx⟩ : ∃ x, x = totalSize (q.take i) + o := ⟨_, rfl⟩
    have haddress : d.store.address i o = .ok x := hx ▸ hq.address_of_lt hr ho
    have hlocate : d.store.locate? x = some ⟨i, r, o⟩ := by
      rw [Store.locate?, hq.toList_eq, hx, locateFrom_take 0 hr ho, Nat.zero_add]
    have hle : x ≤ d.store.size := by
      rw [Store.size, hq.toList_eq, hx]
      exact Nat.le_of_lt (totalSize_take_add_lt hr ho)
    refine ⟨x, hx, step_seekTo_of_ok hs hc haddress, ?_, fun c' hc' => ?_⟩
    · rintro d' s' hstore hs' rfl
      refine ⟨fun c' count hc' hcount => ?_, ?_⟩
      · rw [← hstore] at hlocate
        exact step_read_of_locate hs' hc' hcount hlocate
      · have hall : d'.store.contents.drop s'.position =
            r.bytes.drop o ++ concat (q.drop (i + 1)) := by
          rw [hstore, Store.contents, hq.toList_eq, hx, ← drop_concat_append (Nat.le_of_lt ho),
            ← eq_take_append_cons_drop hr]
        exact hall ▸ readsOut hs'
    · exact step_seek_of_le hs hc' rfl hle
  · exact step_seekTo_of_error hs hc (hq.address_of_length_le hle)
  · exact step_seekTo_of_error hs hc (hq.address_of_le hr hle)

/-- Two records are left of three, the oldest having been evicted. The second of them has a byte at
offset one, and a read with room for nine copies it and the byte behind it; it has none at offset
three, and there is no third record. -/
theorem seekTo_lands_after_eviction :
    let calls : List (Call × Conditions) :=
      [(.open ⟨0⟩, .clear), (.open ⟨1⟩, .clear), (.write 0 [97, 10, 98, 10, 99, 100, 10], .clear)]
    let d : Device 2 := ((⟨.default, .empty, []⟩ : Device 2).run calls).1
    ∃ s, 0 < 2 ∧ d.Reachable ∧ d.session? 1 = some s ∧ Conditions.clear.lock = .granted ∧
      d.store.toList[1]? = some (.ofList [99, 100, 10]) ∧
      d.step .clear (.seekTo 1 ⟨1, 1⟩) = (d.movedTo 1 s 3, .number 3, [.soughtRecord ⟨1, 1⟩ 3]) ∧
      ((d.movedTo 1 s 3).step .clear (.read 1 9)).2.1 = .bytes [100, 10] ∧
      (d.movedTo 1 s 3).ReadsOut 1 [100, 10] ∧
      d.step .clear (.seekTo 1 ⟨1, 3⟩) =
        (d, .failed (.lookup (.offsetOutOfRange 1 3 3)), []) ∧
      d.step .clear (.seekTo 1 ⟨2, 0⟩) = (d, .failed (.lookup (.recordOutOfRange 2 2)), []) := by
  intro calls d
  have hd : d.Reachable := ⟨.default, ⟨.default, .empty, []⟩, [.created 2 10], calls, rfl, rfl⟩
  let s : Session := .new 10 ⟨1⟩
  have hs : d.session? 1 = some s := by cbv
  have hrs : d.store.toList = [.ofList [98, 10], .ofList [99, 100, 10]] := by cbv
  -- nothing below is evaluated
  clear_value d
  obtain ⟨hlands, -, -⟩ := seekTo_lands (by decide) hd hs (c := .clear) rfl ⟨1, 1⟩
  obtain ⟨-, -, hoffset⟩ := seekTo_lands (by decide) hd hs (c := .clear) rfl ⟨1, 3⟩
  obtain ⟨-, hrecord, -⟩ := seekTo_lands (by decide) hd hs (c := .clear) rfl ⟨2, 0⟩
  rw [hrs] at hlands hoffset hrecord
  obtain ⟨x, hx, hstep, hreads, -⟩ := hlands (.ofList [99, 100, 10]) rfl (by decide)
  obtain rfl : x = 3 := hx
  obtain ⟨hread, hall⟩ := hreads (d.movedTo 1 s 3) _ rfl (session?_movedTo hs 3) rfl
  refine ⟨s, by decide, hd, hs, rfl, by rw [hrs]; rfl, hstep, ?_, hall, hoffset _ rfl (by decide),
    hrecord (by decide)⟩
  rw [hread .clear 9 rfl (by decide)]
  rfl

end Device

end RecordRing
