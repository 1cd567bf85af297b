import RecordRing.Proofs.Replay

/-!
# The retained records can be read off the contents

A copy of the contents is one byte string, and where one record ends and the next begins is not
written down beside it. It need not be: whatever sessions do, and whatever they are denied, each
retained record ends with the terminator and has no other, so cutting the contents after every
terminator gives the records back.

That every record is a piece is kept by each call for one reason, wherever the record was cut: the
records that an answer puts in are pieces (`Session.Answers.isPiece`), and the store has none but
those that were put in.

## Main definitions

* `Device.RetainsPieces` — every retained record is a piece

## Main results

* `Device.RetainsPieces.step`, `RetainsPieces.run` — what one call preserves, a run preserves
* `isCut_concat` — records that are pieces are the reading of their bytes
* `Device.run_pieces_contents` — the contents give the records back
-/

namespace RecordRing

variable {n : Nat} {t : UInt8} {rs : List Record}

/-! ### The bytes of pieces -/

/-- **Records that are pieces are the reading of their bytes**, which leaves nothing over. -/
theorem isCut_concat (h : ∀ r ∈ rs, IsPiece t r.bytes) :
    IsCut t (concat rs) (rs.map Record.bytes) [] where
  flatten_append := by rw [flatten_map_bytes, List.append_nil]
  isPiece := by
    intro p hp
    obtain ⟨r, hr, rfl⟩ := List.mem_map.1 hp
    exact h r hr
  notMem := List.not_mem_nil

/-- Bytes that pieces make up end as the last piece does. -/
theorem getLast?_concat_of_isPiece (h : ∀ r ∈ rs, IsPiece t r.bytes) :
    concat rs = [] ∨ (concat rs).getLast? = some t := by
  rcases List.eq_nil_or_concat' rs with rfl | ⟨rs, r, rfl⟩
  · exact .inl rfl
  · obtain ⟨body, -, hbytes⟩ := h r (by simp)
    refine .inr ?_
    rw [concat_append, concat_cons, hbytes, concat_nil, List.append_nil, ← List.append_assoc,
      List.getLast?_concat]

namespace Device

variable {d : Device n} {c : Conditions} {call : Call}

/-! ### One call -/

/-- The settings are never changed. -/
@[simp] theorem config_step (d : Device n) (c : Conditions) (call : Call) :
    (d.step c call).1.config = d.config := by
  rcases d.step_cases c call with
    ⟨id, s, -, -, h⟩ | ⟨id, -, -, h⟩ | ⟨token, -, h⟩ | ⟨-, h⟩ | ⟨-, reply, es, h, -⟩ <;> rw [h]
  rfl

/-- Every retained record is a piece. -/
def RetainsPieces (d : Device n) : Prop :=
  ∃ rs, d.store.Holds rs ∧ ∀ r ∈ rs, IsPiece d.config.terminator r.bytes

/-- **A call leaves none but pieces in the store**, whatever it meets with. -/
theorem RetainsPieces.step (h : d.RetainsPieces) (hv : d.Valid) (c : Conditions) (call : Call) :
    (d.step c call).1.RetainsPieces := by
  obtain ⟨rs, hrs, hpieces⟩ := h
  rcases d.step_cases c call with
    ⟨id, s, -, hs, hstep⟩ | ⟨id, -, -, hstep⟩ | ⟨token, -, hstep⟩ | ⟨-, hstep⟩ |
      ⟨-, reply, es, hstep, -⟩ <;>
    rw [hstep]
  · obtain ⟨hsv, hterm⟩ := hv id s hs
    obtain ⟨new, hanswers⟩ := Session.respond_answers hsv d.store c call
    refine ⟨_, (hrs.commits hanswers.commits).1, ?_⟩
    intro r hr
    rcases List.mem_append.1 (List.mem_of_mem_drop hr) with hold | hnew
    · exact hpieces r hold
    · exact hterm ▸ hanswers.isPiece r hnew
  · exact ⟨rs, hrs, hpieces⟩
  · exact ⟨rs, hrs, hpieces⟩
  · refine ⟨[], ?_, nofun⟩
    rw [Store.teardown_fst]
    exact Store.holds_empty (Nat.zero_lt_of_lt hrs.readCursor_lt)
  · exact ⟨rs, hrs, hpieces⟩

/-! ### Runs -/

theorem config_run (d : Device n) (calls : List (Call × Conditions)) :
    (d.run calls).1.config = d.config := by
  induction calls generalizing d with
  | nil => rfl
  | cons x calls ih => rw [run_cons, ih, config_step]

theorem RetainsPieces.run (h : d.RetainsPieces) (hv : d.Valid) (calls : List (Call × Conditions)) :
    (d.run calls).1.RetainsPieces := by
  induction calls generalizing d with
  | nil => exact h
  | cons x calls ih => exact ih (h.step hv x.2 x.1) (hv.step x.2 x.1)

theorem Reachable.retainsPieces (hn : 0 < n) (h : d.Reachable) : d.RetainsPieces := by
  have hnew (config : Config) : RetainsPieces ⟨config, (.empty : Store n), []⟩ :=
    ⟨[], Store.holds_empty hn, nofun⟩
  exact (h.preserves (P := fun d => d.RetainsPieces ∧ d.Valid)
    (fun config => ⟨hnew config, valid_of_sessions_eq_nil rfl⟩)
    fun _ c call h => ⟨h.1.step h.2 c call, h.2.step c call⟩).1

/-- What the device says of its store, once it has the lock. -/
theorem step_observe (hc : c.lock = .granted) :
    d.step c .records = (d, .records d.store.toList, []) ∧
      d.step c .contents = (d, .bytes d.store.contents, []) ∧
      d.step c .stats = (d, .stats d.store.stats, []) := by
  obtain ⟨lock, memory⟩ := c
  obtain rfl : lock = .granted := hc
  exact ⟨rfl, rfl, rfl⟩

/-- **The contents give the records back.** Whatever calls a new device has answered, in whatever
order, and whatever they were denied, every retained record ends with the terminator and has no
other. So the contents are empty or end with the terminator, and cutting them after every terminator
gives the retained records and leaves nothing over. The summary counts these pieces, and their
bytes. -/
theorem run_pieces_contents (hn : 0 < n) {config : Config} {created : List Event}
    (h : new n config = .ok (d, created)) (calls : List (Call × Conditions))
    (hc : c.lock = .granted) :
    let d' := (d.run calls).1
    ∃ rs bs stats, d'.step c .records = (d', .records rs, []) ∧
      d'.step c .contents = (d', .bytes bs, []) ∧ d'.step c .stats = (d', .stats stats, []) ∧
      (∀ r ∈ rs, IsPiece config.terminator r.bytes) ∧
      (bs = [] ∨ bs.getLast? = some config.terminator) ∧
      pieces config.terminator bs = rs.map Record.bytes ∧ remainder config.terminator bs = [] ∧
      (pieces config.terminator bs).length = stats.retained ∧
      (pieces config.terminator bs).flatten = bs ∧ bs.length = stats.totalSize := by
  intro d'
  obtain ⟨rfl, -⟩ := new_eq h
  have hv : Valid (⟨config, .empty, []⟩ : Device n) := valid_of_sessions_eq_nil rfl
  have hempty : RetainsPieces (⟨config, .empty, []⟩ : Device n) := ⟨[], Store.holds_empty hn, nofun⟩
  obtain ⟨rs, hrs, hpieces⟩ := hempty.run hv calls
  rw [config_run] at hpieces
  have hcut : IsCut config.terminator (concat rs) (rs.map Record.bytes) [] := isCut_concat hpieces
  have hcontents : d'.store.contents = concat rs := by rw [Store.contents, hrs.toList_eq]
  obtain ⟨hrecords, hbytes, hstats⟩ := d'.step_observe hc
  rw [hrs.toList_eq] at hrecords
  rw [hcontents] at hbytes
  rw [hrs.stats_eq] at hstats
  refine ⟨rs, concat rs, _, hrecords, hbytes, hstats, hpieces, getLast?_concat_of_isPiece hpieces,
    hcut.eq_pieces.symm, hcut.eq_remainder.symm, ?_, ?_, length_concat rs⟩
  · rw [← hcut.eq_pieces, List.length_map]
  · rw [← hcut.eq_pieces, flatten_map_bytes]

/-- Finished records wait behind refusals while more chunks come in, one session ends while it is
denied the lock, and the store is emptied in between. -/
theorem run_pieces_contents_after_refusals :
    let calls : List (Call × Conditions) :=
      [(.open ⟨0⟩, .clear), (.open ⟨1⟩, .clear), (.write 0 [97, 10, 98], .clear),
        (.shutdown, .clear), (.write 0 [10, 99, 10, 100, 10, 101], ⟨.granted, .refusing 3⟩),
        (.write 1 [120, 10, 121, 10, 122, 122, 10], ⟨.granted, .refusing 3⟩),
        (.close 1, ⟨.cancelled, .generous⟩), (.write 0 [102], ⟨.granted, .refusing 4⟩),
        (.write 0 [102], .clear), (.write 0 [103, 10], ⟨.cancelled, .generous⟩)]
    ∃ d : Device 3, 0 < 3 ∧ new 3 .default = .ok (d, [.created 3 10]) ∧
      Conditions.clear.lock = .granted ∧
      ((d.run calls).1.step .clear .contents).2.1 = .bytes [120, 10, 99, 10, 100, 10] ∧
      ((d.run calls).1.step .clear .records).2.1 =
        .records ((pieces 10 [120, 10, 99, 10, 100, 10]).map .ofList) := by
  intro calls
  have hnew : new 3 .default = .ok ((⟨.default, .empty, []⟩ : Device 3), [.created 3 10]) := rfl
  obtain ⟨rs, bs, stats, hrecords, hcontents, -, -, -, hpieces, -⟩ :=
    run_pieces_contents (by decide) hnew calls (c := .clear) rfl
  have hbytes : (((⟨.default, .empty, []⟩ : Device 3).run calls).1.step .clear .contents).2.1 =
      .bytes [120, 10, 99, 10, 100, 10] := by
    cbv
  refine ⟨_, by decide, hnew, rfl, hbytes, ?_⟩
  rw [hcontents] at hbytes
  obtain rfl : bs = [120, 10, 99, 10, 100, 10] := Reply.bytes.inj hbytes
  have hcut : pieces 10 [120, 10, 99, 10, 100, 10] = rs.map Record.bytes := hpieces
  rw [hrecords, hcut, List.map_map]
  simp [Function.comp_def]

end Device

end RecordRing
