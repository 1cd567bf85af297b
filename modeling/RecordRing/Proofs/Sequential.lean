import RecordRing.Proofs.Contents
import RecordRing.Proofs.Reader

/-!
# Reading on until nothing is read

A reader that is alone with the store reads until a read gives nothing. Each read copies at least a
byte while there is one at the position, since the lookup never ends at the end of a record, where
nothing would be left to copy. So the reads give the contents from the position on, each byte once,
and after at most as many reads as there are bytes one gives nothing, and so does every later one.
How the bytes are divided among the reads depends on the records and on the room that each read has;
what they are together does not.

Reads change nothing but the position, so the device after any number of them is the one before with
the session at another place (`Device.movedTo`).

## Main definitions

* `Call.ReadsOn` — a read that has the lock, and room for a byte

## Main results

* `Device.run_readsOn` — any number of them, one after the other
* `Device.run_readsOn_to_end` — reading on is complete, and ends
-/

namespace RecordRing

variable {n : Nat}

/-- A read of session `id` that has the lock, and room for at least a byte. -/
def Call.ReadsOn (id : SessionId) (x : Call × Conditions) : Prop :=
  x.2.lock = .granted ∧ ∃ count, 0 < count ∧ x.1 = .read id count

namespace Device

variable {d : Device n} {id : SessionId} {s : Session} {calls : List (Call × Conditions)}

/-- **Reads one after the other** give the contents from the position on, as far as they get: first
reads that give something, and then reads that give nothing. The first of these has come to the end
of the data. -/
theorem run_readsOn (hs : d.session? id = some s) (hcalls : ∀ x ∈ calls, Call.ReadsOn id x) :
    ∃ texts idle, (d.run calls).2.map Entry.bytesRead = texts ++ List.replicate idle [] ∧
      (∀ text ∈ texts, text ≠ []) ∧
      texts.flatten <+: d.store.contents.drop s.position ∧
      (0 < idle → texts.flatten = d.store.contents.drop s.position) ∧
      (d.run calls).1 = d.movedTo id s (s.position + texts.flatten.length) := by
  induction calls generalizing d s with
  | nil => exact ⟨[], 0, rfl, nofun, List.nil_prefix, nofun, (movedTo_self hs).symm⟩
  | cons x calls ih =>
    obtain ⟨call, c⟩ := x
    obtain ⟨⟨hc, count, hcount, rfl⟩, hrest⟩ := List.forall_mem_cons.1 hcalls
    obtain ⟨k, es, hcopies, hstep⟩ := step_read_moved hs hc hcount
    let text := (d.store.contents.drop s.position).take k
    have hlen : text.length = k := hcopies.length_take
    obtain ⟨texts, idle, hlog, hne, hcopied, hend, hlast⟩ :=
      ih (session?_movedTo hs (s.position + k)) hrest
    rw [store_movedTo, ← List.drop_drop] at hcopied hend
    rw [movedTo_movedTo] at hlast
    have hfirst : (d.run ((.read id count, c) :: calls)).2.map Entry.bytesRead =
        text :: (texts ++ List.replicate idle []) := by
      rw [run_cons, entry, hstep, List.map_cons, hlog]
      rfl
    have hfinal : (d.run ((.read id count, c) :: calls)).1 =
        d.movedTo id s (s.position + k + texts.flatten.length) := by
      rw [run_cons, hstep]
      exact hlast
    rw [hfirst, hfinal]
    by_cases hk : k = 0
    · -- the end of the data, so the other reads give nothing either
      have hnil : d.store.contents.drop s.position = [] := hcopies.drop_eq_nil_iff.2 hk
      rw [hnil, List.drop_nil, List.prefix_nil, List.flatten_eq_nil_iff] at hcopied
      have htexts : texts = [] :=
        List.eq_nil_iff_forall_not_mem.2 fun later hlater => hne later hlater (hcopied later hlater)
      have htext : text = [] := List.length_eq_zero_iff.1 (hlen.trans hk)
      rw [htexts, htext, hk, hnil]
      exact ⟨[], idle + 1, rfl, nofun, List.nil_prefix, fun _ => rfl, rfl⟩
    · refine ⟨text :: texts, idle, rfl, List.forall_mem_cons.2 ⟨?_, hne⟩, ?_, fun hidle => ?_, ?_⟩
      · rw [← List.length_pos_iff, hlen]
        exact Nat.pos_of_ne_zero hk
      · rw [List.flatten_cons, ← List.take_append_drop k (d.store.contents.drop s.position)]
        exact (List.prefix_append_right_inj _).2 hcopied
      · rw [List.flatten_cons, hend hidle, List.take_append_drop]
      · rw [List.flatten_cons, List.length_append, hlen, Nat.add_assoc]

/-- A read that comes after others finds the session where they have taken it. -/
theorem step_read_after (hs : d.session? id = some s) {before : List (Call × Conditions)}
    (hbefore : ∀ x ∈ before, Call.ReadsOn id x) {c : Conditions} (hc : c.lock = .granted)
    {count : Nat} (hcount : 0 < count) :
    ∃ q k es, (d.run before).1 = d.movedTo id s q ∧
      q = s.position + ((d.run before).2.flatMap Entry.bytesRead).length ∧
      Copies d.store.toList q count k ∧
      (d.movedTo id s q).step c (.read id count) =
        (d.movedTo id s (q + k), .bytes ((d.store.contents.drop q).take k), es) := by
  obtain ⟨texts, idle, hlog, -, -, -, hlast⟩ := run_readsOn hs hbefore
  let q := s.position + texts.flatten.length
  obtain ⟨k, es, hcopies, hstep⟩ := step_read_moved (session?_movedTo hs q) hc hcount
  rw [movedTo_movedTo] at hstep
  refine ⟨q, k, es, hlast, ?_, hcopies, hstep⟩
  rw [List.flatMap_def, hlog, List.flatten_append, List.flatten_replicate_nil, List.append_nil]

/-- Texts that are not empty are at most as many as they have bytes. -/
theorem length_le_length_flatten {texts : List (List UInt8)} (hne : ∀ text ∈ texts, text ≠ []) :
    texts.length ≤ texts.flatten.length := by
  rw [List.length_flatten, ← List.length_map List.length]
  refine List.length_le_sum_of_one_le _ (List.forall_mem_map.2 fun text htext => ?_)
  exact List.length_pos_iff.2 (hne text htext)

/-- **Reading on is complete, and ends.** A session reads, with the lock and room for at least a
byte, and nothing else happens. Each read copies what the contents have at the position, as far as
the record goes and there is room, which is nothing at the end of the data or past it, and there
only; and it moves the position over these bytes, and changes nothing else. So there are first reads
that give something, at most one for each byte from the position on, and then reads that give
nothing. Once there is one of these, the reads have given the contents from the position on,
whatever room they had, and the position is at the end of the data, unless it was past it before.
From position 0, they have given the contents. -/
theorem run_readsOn_to_end (hs : d.session? id = some s)
    (hcalls : ∀ x ∈ calls, Call.ReadsOn id x) :
    let size := d.store.size
    let contents := d.store.contents
    (∀ before count c after, calls = before ++ (.read id count, c) :: after →
      ∃ q k es, (d.run before).1 = d.movedTo id s q ∧
        q = s.position + ((d.run before).2.flatMap Entry.bytesRead).length ∧
        Copies d.store.toList q count k ∧
        (d.movedTo id s q).step c (.read id count) =
          (d.movedTo id s (q + k), .bytes ((contents.drop q).take k), es)) ∧
    ∃ texts idle, (d.run calls).2.map Entry.bytesRead = texts ++ List.replicate idle [] ∧
      (∀ text ∈ texts, text ≠ []) ∧ texts.length ≤ size - min s.position size ∧
      (size - min s.position size < calls.length → 0 < idle) ∧
      (d.run calls).1 = d.movedTo id s (s.position + texts.flatten.length) ∧
      (0 < idle →
        texts.flatten = contents.drop s.position ∧
        (d.run calls).1 = d.movedTo id s (max s.position size) ∧
        (s.position = 0 → ∀ c : Conditions, c.lock = .granted →
          d.step c .contents = (d, .bytes texts.flatten, []))) := by
  intro size contents
  have hsize : contents.length = size := length_concat _
  refine ⟨?_, ?_⟩
  · rintro before count c after rfl
    obtain ⟨hbefore, hread⟩ := List.forall_mem_append.1 hcalls
    obtain ⟨hc, count', hcount, hcall⟩ := hread _ List.mem_cons_self
    obtain ⟨-, rfl⟩ := Call.read.inj hcall
    exact step_read_after hs hbefore hc hcount
  · obtain ⟨texts, idle, hlog, hne, hcopied, hend, hlast⟩ := run_readsOn hs hcalls
    have htexts : texts.length ≤ size - min s.position size := by
      have hmany := length_le_length_flatten hne
      have hall := hcopied.length_le
      rw [List.length_drop, hsize] at hall
      omega
    refine ⟨texts, idle, hlog, hne, htexts, fun hmany => ?_, hlast, fun hidle => ?_⟩
    · have hlen := congrArg List.length hlog
      rw [List.length_map, length_run, List.length_append, List.length_replicate] at hlen
      omega
    · have hflat := hend hidle
      refine ⟨hflat, ?_, fun hzero c hc => ?_⟩
      · rw [hlast, hflat, List.length_drop, hsize]
        congr 1
        omega
      · rw [(d.step_observe hc).2.1, hflat, hzero, List.drop_zero]

/-- Seven bytes in three records, and eight reads with room for different numbers of them. -/
theorem run_readsOn_to_end_three_records :
    let writes : List (Call × Conditions) :=
      [(.open ⟨0⟩, .clear), (.open ⟨1⟩, .clear), (.write 0 [97, 98, 10, 99, 10, 100, 10], .clear)]
    let reads : List (Call × Conditions) :=
      [2, 5, 1, 9, 9, 4, 4, 4].map fun count => (.read 1 count, .clear)
    let d : Device 3 := ((⟨.default, .empty, []⟩ : Device 3).run writes).1
    ∃ s texts idle, d.session? 1 = some s ∧ (∀ x ∈ reads, Call.ReadsOn 1 x) ∧
      (d.run reads).2.map Entry.bytesRead = texts ++ List.replicate idle [] ∧ 0 < idle ∧
      texts.flatten = [97, 98, 10, 99, 10, 100, 10] ∧ (d.run reads).1 = d.movedTo 1 s 7 := by
  intro writes reads d
  have hs : d.session? 1 = some (.new 10 ⟨1⟩) := by cbv
  have hreads : ∀ x ∈ reads, Call.ReadsOn 1 x := by
    simp [reads, Call.ReadsOn, Conditions.clear]
  have hcontents : d.store.contents = [97, 98, 10, 99, 10, 100, 10] := by cbv
  have hsize : d.store.size = 7 := by cbv
  -- nothing below is evaluated
  clear_value d
  obtain ⟨-, texts, idle, hlog, -, -, hends, -, hdone⟩ := run_readsOn_to_end hs hreads
  rw [hsize] at hends hdone
  have hidle : 0 < idle := hends (by decide)
  obtain ⟨hflat, hlast, -⟩ := hdone hidle
  exact ⟨_, texts, idle, hs, hreads, hlog, hidle, hflat.trans hcontents, hlast⟩

end Device

end RecordRing
