import Mathlib.Algebra.Order.Floor.Semiring
import Mathlib.Data.Rat.Floor
import Mathlib.Tactic.Linarith
import Mathlib.Tactic.Positivity
import TransferReport.Proofs.Fault
import TransferReport.Replay

/-!
# The calls of a replay

A replay tells progress once for every chunk that is begun.  The amounts are the multiples of the
chunk up to the first one that reaches the size, and this one is cut to the size, so the size is
told once, at the end, whether or not the chunk divides it.  A listener without faults is told all
stages in order; a chunk that is not positive is refused before anything is told, and a size that is
too long to be written ends the replay where it would be announced.
-/

namespace TransferReport.Replay

variable {first limit step size chunk : ℤ}

theorem progression_of_lt (hstep : 0 < step) (h : first < limit) :
    progression first limit step = first :: progression (first + step) limit step := by
  rw [progression, if_pos ⟨hstep, h⟩]

theorem progression_of_le (h : limit ≤ first) : progression first limit step = [] := by
  rw [progression, if_neg fun both ↦ h.not_gt both.2]

theorem getElem?_progression (hstep : 0 < step) (first limit : ℤ) (i : ℕ) :
    (progression first limit step)[i]? =
      if first + i * step < limit then some (first + i * step) else none := by
  induction i generalizing first with
  | zero =>
    by_cases h : first < limit
    · simp [progression_of_lt hstep h, h]
    · simp [progression_of_le (not_lt.1 h), h]
  | succ i ih =>
    have hnext : first + step + i * step = first + (i + 1 : ℕ) * step := by
      push_cast
      ring
    by_cases h : first < limit
    · rw [progression_of_lt hstep h, List.getElem?_cons_succ, ih, hnext]
    · have hbeyond : ¬ first + (i + 1 : ℕ) * step < limit := by
        have hsteps : 0 ≤ (i + 1 : ℕ) * step := by positivity
        linarith
      rw [progression_of_le (not_lt.1 h), List.getElem?_nil, if_neg hbeyond]

/-- How many chunks are begun. -/
def chunkCount (size chunk : ℤ) : ℕ := ⌈(size / chunk : ℚ)⌉₊

theorem lt_chunkCount_iff (hchunk : 0 < chunk) {i : ℕ} :
    i < chunkCount size chunk ↔ i * chunk < size := by
  have hpos : (0 : ℚ) < chunk := by exact_mod_cast hchunk
  rw [chunkCount, Nat.lt_ceil, lt_div_iff₀ hpos]
  exact_mod_cast Iff.rfl

theorem chunkCount_of_nonpos (hchunk : 0 < chunk) (hsize : size ≤ 0) :
    chunkCount size chunk = 0 := by
  have hpos : (0 : ℚ) < chunk := by exact_mod_cast hchunk
  have hnone : (size : ℚ) ≤ 0 := by exact_mod_cast hsize
  exact Nat.ceil_eq_zero.2 (div_nonpos_of_nonpos_of_nonneg hnone hpos.le)

/-- Every chunk but the last is told in full, the last one up to the size. -/
theorem amounts_eq (hchunk : 0 < chunk) (size : ℤ) :
    amounts size chunk =
      (List.range (chunkCount size chunk)).map fun i : ℕ ↦ min ((i + 1) * chunk) size := by
  apply List.ext_getElem?
  intro i
  have hmultiple : chunk + i * chunk = (i + 1) * chunk := by ring
  rw [amounts, List.getElem?_map, getElem?_progression hchunk, List.getElem?_map, hmultiple]
  by_cases hi : i * chunk < size
  · have hbelow : (i + 1) * chunk < size + chunk := by linarith
    rw [if_pos hbelow, List.getElem?_range ((lt_chunkCount_iff hchunk).2 hi)]
    rfl
  · have hbeyond : ¬ (i + 1) * chunk < size + chunk := by linarith
    have hcount : chunkCount size chunk ≤ i := not_lt.1 (mt (lt_chunkCount_iff hchunk).1 hi)
    rw [if_neg hbeyond, List.getElem?_eq_none (by simpa using hcount)]
    rfl

/-- With the nothing before them, the amounts are all multiples of the chunk up to the size. -/
theorem cons_amounts_eq (hchunk : 0 < chunk) (hsize : 0 ≤ size) :
    0 :: amounts size chunk =
      (List.range (chunkCount size chunk + 1)).map fun i : ℕ ↦ min (i * chunk) size := by
  rw [amounts_eq hchunk, List.range_succ_eq_map, List.map_cons, List.map_map]
  simp [hsize, Function.comp_def]

/-- From one amount to the next it is a chunk, or less to reach the size. -/
def IsStep (size chunk less more : ℤ) : Prop :=
  less < more ∧ more - less ≤ chunk ∧ (more - less < chunk → more = size)

theorem isChain_amounts (hchunk : 0 < chunk) (size : ℤ) :
    (0 :: amounts size chunk).IsChain (IsStep size chunk) := by
  by_cases hsize : 0 ≤ size
  · rw [cons_amounts_eq hchunk hsize, List.isChain_map, List.isChain_range]
    intro i hi
    have hbegun : i * chunk < size := (lt_chunkCount_iff hchunk).1 hi
    have hnext : (i.succ : ℤ) * chunk = i * chunk + chunk := by
      push_cast
      ring
    unfold IsStep
    rw [hnext]
    omega
  · rw [amounts_eq hchunk, chunkCount_of_nonpos hchunk (not_le.1 hsize).le]
    exact List.isChain_singleton 0

theorem pairwise_amounts (hchunk : 0 < chunk) (size : ℤ) :
    (0 :: amounts size chunk).Pairwise (· < ·) := by
  rw [← List.isChain_iff_pairwise]
  apply (isChain_amounts hchunk size).imp
  intro less more hstep
  exact hstep.1

theorem le_of_mem_amounts {amount : ℤ} (h : amount ∈ amounts size chunk) : amount ≤ size := by
  obtain ⟨multiple, -, rfl⟩ := List.mem_map.1 h
  exact min_le_right multiple size

/-- The size is told at the end. -/
theorem getLast?_amounts (hchunk : 0 < chunk) (hsize : 0 < size) :
    (amounts size chunk).getLast? = some size := by
  have hfirst : 0 < chunkCount size chunk := by
    rw [lt_chunkCount_iff hchunk]
    simpa using hsize
  obtain ⟨n, hn⟩ := Nat.exists_eq_add_one.2 hfirst
  have hlast : size ≤ (n + 1) * chunk := by
    have hbeyond : ¬ ((n + 1 : ℕ) : ℤ) * chunk < size := by
      rw [← lt_chunkCount_iff hchunk, hn]
      exact lt_irrefl _
    simpa using hbeyond
  rw [amounts_eq hchunk, hn, List.range_succ, List.map_append, List.map_singleton,
    List.getLast?_concat, min_eq_right hlast]

/-- The size is told once. -/
theorem count_amounts (hchunk : 0 < chunk) (hsize : 0 < size) :
    (amounts size chunk).count size = 1 := by
  apply List.count_eq_one_of_mem
  · exact (List.pairwise_cons.1 (pairwise_amounts hchunk size)).2.imp LT.lt.ne
  · exact List.mem_of_getLast? (getLast?_amounts hchunk hsize)

/-! ## The calls -/

variable {State : Type} {report : State → Stage → Event → Step State} {toEvent : ℤ → Event}
  {last : Event} {state : State} {call : Stage × ℤ} {rest : List (Stage × ℤ)}

/-- The outcome of a call and of what follows it. -/
def Outcome.behind (step : Step State) (call : Stage × ℤ) (after : Outcome State) : Outcome State :=
  ⟨after.state, step.out ++ after.out, step.records ++ after.records, call :: after.made,
    after.result⟩

theorem follow_cons_of_quiet (quiet : (report state call.1 (toEvent call.2)).fault = none) :
    follow report toEvent last state (call :: rest) =
      (follow report toEvent last (report state call.1 (toEvent call.2)).state rest).behind
        (report state call.1 (toEvent call.2)) call := by
  simp only [follow, quiet, Outcome.behind]

theorem follow_cons_of_fault {fault : Fault}
    (met : (report state call.1 (toEvent call.2)).fault = some fault) :
    follow report toEvent last state (call :: rest) =
      ⟨(report state call.1 (toEvent call.2)).state, (report state call.1 (toEvent call.2)).out,
        (report state call.1 (toEvent call.2)).records, [call], .error fault⟩ := by
  simp only [follow, met]

/-- A listener without faults is told of all calls in order. -/
theorem follow_of_quiet (quiet : ∀ state stage e, (report state stage e).fault = none)
    (toEvent : ℤ → Event) (last : Event) (state : State) (calls : List (Stage × ℤ)) :
    (follow report toEvent last state calls).made = calls ∧
      (follow report toEvent last state calls).result = .ok last ∧
      (follow report toEvent last state calls).state =
        calls.foldl (fun state call ↦ (report state call.1 (toEvent call.2)).state) state := by
  induction calls generalizing state with
  | nil => exact ⟨rfl, rfl, rfl⟩
  | cons call calls ih =>
    obtain ⟨hmade, hresult, hstate⟩ := ih (report state call.1 (toEvent call.2)).state
    rw [follow_cons_of_quiet (quiet state call.1 (toEvent call.2))]
    exact ⟨congrArg (List.cons call) hmade, hresult, hstate⟩

variable {threshold : ℕ} {direction : Direction} {resource : Resource} {records : List Record}

theorem exists_announce (h : Level.debug.severity < threshold ∨ Text.isWritable size) :
    ∃ records, announce threshold direction resource size = (records, none) := by
  unfold announce
  split
  · rename_i kept
    rw [announcement, if_pos (h.resolve_left kept.not_gt)]
    exact ⟨_, rfl⟩
  · exact ⟨_, rfl⟩

theorem announce_of_long (kept : threshold ≤ Level.debug.severity) (long : ¬ Text.isWritable size) :
    announce threshold direction resource size = ([], some .unwritableInteger) := by
  rw [announce, if_pos kept, announcement, if_neg long]
  rfl

theorem run_of_announced (hchunk : 0 < chunk)
    (h : announce threshold direction resource size = (records, none)) :
    run report threshold direction resource size chunk state =
      let after := follow report (event direction resource) (event direction resource size) state
        (calls size chunk)
      ⟨after.state, after.out, records ++ after.records, after.made, after.result⟩ := by
  simp only [run, if_neg hchunk.not_ge, h]

theorem run_of_unannounced {fault : Fault} (hchunk : 0 < chunk)
    (h : announce threshold direction resource size = (records, some fault)) :
    run report threshold direction resource size chunk state =
      ⟨state, "", records, [], .error fault⟩ := by
  simp only [run, if_neg hchunk.not_ge, h]

/-- A chunk that is not positive is refused as an error of values before anything is told.  With any
other one the replay is announced, and this fails, before anything is told, exactly where the
announcement is kept and the size is too long to be written.  A listener without faults is then told
that the transfer is initiated, that it is started, of every chunk that is begun, and that it
succeeds, and the last event is returned.  The amounts are the multiples of the chunk, the last one
cut to the size: they grow from nothing in steps of a chunk, none exceeds the size, and only the last
step may be shorter.  The size is told once, as the last amount. -/
theorem run_of_quiet {State : Type} {report : State → Stage → Event → Step State}
    (quiet : ∀ state stage e, (report state stage e).fault = none) (threshold : ℕ)
    (direction : Direction) (resource : Resource) (size chunk : ℤ) (state : State) :
    (chunk ≤ 0 → run report threshold direction resource size chunk state =
        ⟨state, "", [], [], .error (Fault.chunkNotPositive chunk).raised⟩ ∧
      (Fault.chunkNotPositive chunk).raised.errorClass = .value) ∧
    (0 < chunk → threshold ≤ Level.debug.severity → ¬ Text.isWritable size →
      run report threshold direction resource size chunk state =
        ⟨state, "", [], [], .error .unwritableInteger⟩) ∧
    (0 < chunk → Level.debug.severity < threshold ∨ Text.isWritable size → ∃ outcome values,
      run report threshold direction resource size chunk state = outcome ∧
      outcome.made = (.initiated, 0) :: (.started, 0) ::
        values.map (fun amount ↦ (.progressed, amount)) ++ [(.succeeded, size)] ∧
      outcome.state = outcome.made.foldl (fun state call ↦
        (report state call.1 (event direction resource call.2)).state) state ∧
      outcome.result = .ok (event direction resource size) ∧
      values = (List.range ⌈(size / chunk : ℚ)⌉₊).map (fun i : ℕ ↦ min ((i + 1) * chunk) size) ∧
      (size ≤ 0 → values = []) ∧
      (0 :: values).Pairwise (· < ·) ∧
      (∀ amount ∈ values, amount ≤ size) ∧
      (0 :: values).IsChain (fun less more ↦
        more - less ≤ chunk ∧ (more - less < chunk → more = size)) ∧
      (0 < size → values.getLast? = some size ∧ values.count size = 1)) := by
  refine ⟨fun hchunk ↦ ?_, fun hchunk kept long ↦ ?_, fun hchunk announced ↦ ?_⟩
  · rw [run, if_pos hchunk, Fault.errorClass_raised]
    exact ⟨rfl, ite_self _⟩
  · exact run_of_unannounced hchunk (announce_of_long kept long)
  · obtain ⟨records, hrecords⟩ := exists_announce announced
    obtain ⟨hmade, hresult, hstate⟩ := follow_of_quiet quiet (event direction resource)
      (event direction resource size) state (calls size chunk)
    refine ⟨_, amounts size chunk, run_of_announced hchunk hrecords, hmade, ?_, hresult,
      amounts_eq hchunk size, ?_, pairwise_amounts hchunk size, fun amount h ↦ le_of_mem_amounts h,
      ?_, fun hsize ↦ ⟨getLast?_amounts hchunk hsize, count_amounts hchunk hsize⟩⟩
    · dsimp only
      rw [hstate, hmade]
    · intro hsize
      rw [amounts_eq hchunk, chunkCount_of_nonpos hchunk hsize]
      rfl
    · apply (isChain_amounts hchunk size).imp
      intro less more hstep
      exact hstep.2

/-- A listener that keeps what it is told. -/
def keep (told : List (Stage × ℤ)) (stage : Stage) (e : Event) : Step (List (Stage × ℤ)) :=
  ⟨told ++ [(stage, e.transferred)], "", [], none⟩

/-- Ten bytes in chunks of four and in chunks of none, and more bytes than can be written. -/
theorem run_of_quiet_ten :
    (∀ told stage e, (keep told stage e).fault = none) ∧
      run keep 20 .download default 10 0 [] = ⟨[], "", [], [], .error (.chunkNotPositive 0)⟩ ∧
      run keep 10 .download default Text.tooLong 4 [] =
        ⟨[], "", [], [], .error .unwritableInteger⟩ ∧
      (run keep 20 .download default 10 4 []).state =
        [(.initiated, 0), (.started, 0), (.progressed, 4), (.progressed, 8), (.progressed, 10),
          (.succeeded, 10)] := by
  have quiet : ∀ told stage e, (keep told stage e).fault = none := fun _ _ _ ↦ rfl
  have hcount : ⌈((10 : ℤ) / (4 : ℤ) : ℚ)⌉₊ = 3 := by
    rw [Nat.ceil_eq_iff (by decide)]
    norm_num
  obtain ⟨refused, -, -⟩ := run_of_quiet quiet 20 .download default 10 0 []
  obtain ⟨-, unannounced, -⟩ := run_of_quiet quiet 10 .download default Text.tooLong 4 []
  obtain ⟨-, -, told⟩ := run_of_quiet quiet 20 .download default 10 4 []
  obtain ⟨outcome, values, houtcome, hmade, hstate, -, hvalues, -⟩ :=
    told (by decide) (.inl (by decide))
  rw [hcount] at hvalues
  refine ⟨quiet, (refused le_rfl).1, unannounced (by decide) le_rfl Text.not_isWritable_tooLong, ?_⟩
  rw [houtcome, hstate, hmade, hvalues]
  rfl

/-- More bytes than can be written, in chunks as large: where the announcement is kept the replay
ends with it and nothing is told, and where it is dropped all is told. -/
theorem unannounced_tooLong :
    (∀ told stage e, (keep told stage e).fault = none) ∧ 0 < Text.tooLong ∧
      run keep 10 .download default Text.tooLong Text.tooLong [] =
        ⟨[], "", [], [], .error .unwritableInteger⟩ ∧
      (run keep 20 .download default Text.tooLong Text.tooLong []).made =
        calls Text.tooLong Text.tooLong := by
  have quiet : ∀ told stage e, (keep told stage e).fault = none := fun _ _ _ ↦ rfl
  have dropped : announce 20 .download default Text.tooLong = ([], none) := if_neg (by decide)
  refine ⟨quiet, Text.tooLong_pos, ?_, ?_⟩
  · exact run_of_unannounced Text.tooLong_pos
      (announce_of_long le_rfl Text.not_isWritable_tooLong)
  · rw [run_of_announced Text.tooLong_pos dropped]
    exact (follow_of_quiet quiet _ _ _ _).1

end TransferReport.Replay
