import Ferminux.Lib.Lines
import Ferminux.Relayer.Journal
import Mathlib.Data.List.Sublists

/-!
# Relayer.JournalFile

The journal on disk: **append-only NDJSON**, one record on each line, replayed into memory
when the store is opened.

A call appends its line, syncs the file and applies the record; only then does it return.
A crash during the append may leave any prefix of the line. Replay skips a line that does
not parse, *and the next process appends right behind whatever the file ends with*. If that
is a torn line, the next record becomes part of it: it was synced, its call returned, and
the replay after that skips both. So the durability the comment on `JournalStore` promises
holds for the runs in which every interrupted append leaves **nothing or the whole line**
(and in which no file is large enough to be compacted, which drops the volume windows).

`JSON.stringify` and `JSON.parse` belong to the runtime and are a parameter (`Json`).
-/

namespace Ferminux.Relayer

open Lib List Option Prod

abbrev Bytes := List UInt8

def newline : UInt8 := 10

/-- `!line.trim()`: the line has nothing but white space. -/
def isBlank (line : Bytes) : Bool := line.all fun b => b == 32 || (9 ≤ b && b ≤ 13)

/-- What the runtime does with records: their text, and the record a text stands for. -/
structure Json where
  stringify : JournalRecord → Bytes
  parse : Bytes → Option JournalRecord

/-- The runtime reads back the record it wrote, and writes it on one line that is not
blank. -/
structure Json.Exact (J : Json) (r : JournalRecord) : Prop where
  parse : J.parse (J.stringify r) = some r
  newline : newline ∉ J.stringify r
  nonblank : isBlank (J.stringify r) = false

instance (J : Json) (r : JournalRecord) : Decidable (J.Exact r) :=
  decidable_of_iff (J.parse (J.stringify r) = some r ∧ Ferminux.Relayer.newline ∉ J.stringify r ∧
      isBlank (J.stringify r) = false)
    ⟨fun h => ⟨h.1, h.2.1, h.2.2⟩, fun h => ⟨h.parse, h.newline, h.nonblank⟩⟩

def Json.line (J : Json) (r : JournalRecord) : Bytes := J.stringify r ++ [newline]

/-- The file that holds these records. -/
def Json.text (J : Json) (records : List JournalRecord) : Bytes :=
  unlines newline (records.map J.stringify)

variable {onFile counted : List JournalRecord} {C : Collation}

variable {history : List (JournalRecord × Bool)} {s s' : State} {events : List Event} {e : Event}

namespace JournalFile

variable (J : Json) (E : Ethers)

/-- The record on a line; a blank line and one that does not parse have none. -/
def readLine (line : Bytes) : Option JournalRecord := if isBlank line then none else J.parse line

/-- The lines that can be read; a torn one is left out. -/
def recordsOf (text : Bytes) : List JournalRecord := (text.splitOn newline).filterMap (readLine J)

def applyAll (records : List JournalRecord) : Except String Journal :=
  records.foldlM (Journal.apply E) {}

/-- What a start reads back. -/
def replay (text : Bytes) : Except String Journal := applyAll E (recordsOf J text)

/-- The records `compactJournal` rewrites the file with. -/
def compactRecords (C : Collation) (j : Journal) : List JournalRecord :=
  let transfers := j.listTransfers { limit := some MAX_SAFE_INTEGER }
  j.cursors.rows.map (fun row => .cursor row.1 row.2) ++
  transfers.map .transfer ++
  transfers.flatMap (fun t => (j.getSignatures C t.transferId).map .signature) ++
  [SubmissionStatus.pending, .mined, .failed, .abandoned].flatMap fun status =>
    (j.listSubmissions status).map .submission

/-- A larger file is rewritten at a start. -/
def JOURNAL_COMPACT_BYTES : Nat := 8 * 1024 * 1024

/-- What `openJournal` leaves in the file before the store reads it. -/
def compacted (C : Collation) (text : Bytes) : Except String Bytes :=
  if JOURNAL_COMPACT_BYTES < text.length then do
    return J.text (compactRecords C (← replay J E text))
  else .ok text

/-! ### Runs -/

/-- The life of the process. -/
inductive Event where
  /-- A call that is not interrupted. -/
  | call (now : Nat) (m : Mutation)
  /-- The process dies during a call; the first bytes of the line are in the file. -/
  | interrupted (now : Nat) (m : Mutation) (bytes : Nat)
  /-- The process dies between two calls. -/
  | crash
  /-- A process opens the store. -/
  | reopen

/-- The file, the maps of the process that has it open, and, for the statement only, the
records of all calls so far, each with whether its call **returned**. -/
structure State where
  disk : Bytes := []
  memory : Option Journal := none
  history : List (JournalRecord × Bool) := []

/-- A mutation: its line is appended after the state has accepted it. -/
def call (s : State) (j : Journal) (now : Nat) (m : Mutation) : State :=
  let r := Journal.recordOf now m
  if j.isStored m then { s with history := s.history ++ [(r, true)] }
  else
    match j.apply E r with
    | .ok j' =>
      { disk := s.disk ++ J.line r, memory := some j', history := s.history ++ [(r, true)] }
    -- the line is on disk when `apply` throws
    | .error _ => { s with disk := s.disk ++ J.line r, history := s.history ++ [(r, false)] }

/-- The memory is gone, and the line may be torn. -/
def interrupted (s : State) (j : Journal) (now : Nat) (m : Mutation) (bytes : Nat) : State :=
  let r := Journal.recordOf now m
  { disk := if j.isStored m then s.disk else s.disk ++ (J.line r).take bytes
    memory := none
    history := s.history ++ [(r, false)] }

/-- One event, if it can happen: calls need an open store, and a store that throws while
it is opened is not open. -/
def step (C : Collation) (s : State) : Event → Option State
  | .call now m => s.memory.map fun j => call J E s j now m
  | .interrupted now m bytes => s.memory.map fun j => interrupted J s j now m bytes
  | .crash => some { s with memory := none }
  | .reopen => do
    guard s.memory.isNone
    let text ← (compacted J E C s.disk).toOption
    let j ← (replay J E text).toOption
    return { s with disk := text, memory := some j }

/-- A life from an empty file. -/
def run (C : Collation) (events : List Event) : Option State := events.foldlM (step J E C) {}

/-- Some of the calls, in order, among them every call that returned. -/
structure Selection (history : List (JournalRecord × Bool)) (kept : List JournalRecord) : Prop where
  returned : ((history.filter (·.2)).map Prod.fst).Sublist kept
  called : kept.Sublist (history.map Prod.fst)

/-- **Durability**: the maps are those of a selection of the calls that leaves out none
that returned. -/
def Reflects (history : List (JournalRecord × Bool)) (j : Journal) : Prop :=
  ∃ kept, Selection history kept ∧ applyAll E kept = .ok j

/-! ### Durability of runs without torn lines -/

/-- The event leaves no torn line behind and compacts nothing: an interrupted append left
nothing or the whole line, and a file that is opened is below the threshold. -/
def Clean (s : State) : Event → Prop
  | .interrupted now m bytes => bytes = 0 ∨ (J.line (Journal.recordOf now m)).length ≤ bytes
  | .reopen => s.disk.length ≤ JOURNAL_COMPACT_BYTES
  | _ => True

/-- Every event of the run is clean at the state it happens in. -/
def CleanRun (C : Collation) (events : List Event) : Prop :=
  ∀ before e s, before ++ [e] <+: events → run J E C before = some s → Clean J s e

variable {J E} {kept : List JournalRecord} {j : Journal}

lemma applyAll_append (records : List JournalRecord) (r : JournalRecord) :
    applyAll E (records ++ [r]) = applyAll E records >>= fun j => j.apply E r := by
  simp [applyAll, foldlM_append]

lemma text_append (records : List JournalRecord) (r : JournalRecord) :
    J.text (records ++ [r]) = J.text records ++ J.line r := by
  simp [Json.text, Json.line]

lemma recordsOf_text {records : List JournalRecord} (h : ∀ r ∈ records, J.Exact r) :
    recordsOf J (J.text records) = records := by
  have hlines : ∀ line ∈ records.map J.stringify, newline ∉ line := by
    intro line hline
    obtain ⟨r, hr, rfl⟩ := mem_map.mp hline
    exact (h r hr).newline
  have hread : ∀ r ∈ records, (readLine J ∘ J.stringify) r = some r := by
    intro r hr
    rw [Function.comp_apply, readLine, (h r hr).nonblank]
    exact (h r hr).parse
  have hlast : [[]].filterMap (readLine J) = [] := rfl
  unfold recordsOf Json.text
  rw [splitOn_unlines hlines, filterMap_append, filterMap_map, filterMap_congr hread,
    hlast, append_nil]
  exact filterMap_some

lemma Selection.keep (h : Selection history kept) (r : JournalRecord) (returned : Bool) :
    Selection (history ++ [(r, returned)]) (kept ++ [r]) := by
  refine ⟨?_, ?_⟩
  · rw [filter_append, map_append]
    refine h.returned.append ?_
    cases returned <;> simp
  · rw [map_append]
    exact h.called.append (.refl _)

lemma Selection.skip
    (h : Selection history kept) (r : JournalRecord) : Selection (history ++ [(r, false)]) kept := by
  refine ⟨?_, ?_⟩
  · simpa using h.returned
  · rw [map_append]
    exact h.called.trans (sublist_append_left _ _)

/-- What the file and the maps of a clean run have to do with its calls: the file holds
whole lines, and replaying them gives the same as the calls that count, unless a call
threw after its line was written, after which the file cannot be opened again. -/
structure Sound (J : Json) (E : Ethers) (s : State) (onFile counted : List JournalRecord) : Prop where
  disk : s.disk = J.text onFile
  written : onFile ⊆ s.history.map Prod.fst
  selection : Selection s.history counted
  memory : ∀ j, s.memory = some j → applyAll E counted = .ok j
  replay : applyAll E onFile = applyAll E counted ∨ ∃ e, applyAll E onFile = .error e

lemma subset_snoc (h : onFile ⊆ history.map fst) (r : JournalRecord) (returned : Bool) :
    onFile ++ [r] ⊆ (history ++ [(r, returned)]).map fst := by
  rw [map_append]
  exact append_subset.mpr ⟨subset_append_of_subset_left _ h, subset_append_right _ _⟩

lemma Sound.append (h : Sound J E s onFile counted) {r : JournalRecord} {returned : Bool}
    (hdisk : s'.disk = s.disk ++ J.line r) (hhistory : s'.history = s.history ++ [(r, returned)])
    (hmemory : ∀ j', s'.memory = some j' → applyAll E (counted ++ [r]) = .ok j') :
    Sound J E s' (onFile ++ [r]) (counted ++ [r]) := by
  refine ⟨?_, ?_, ?_, hmemory, ?_⟩
  · rw [hdisk, h.disk, text_append]
  · rw [hhistory]
    exact subset_snoc h.written r returned
  · rw [hhistory]
    exact h.selection.keep r returned
  · rw [applyAll_append, applyAll_append]
    rcases h.replay with hreplay | ⟨e, he⟩
    · exact .inl (by rw [hreplay])
    · exact .inr ⟨e, by rw [he]; rfl⟩

lemma sound_call
    (h : Sound J E s onFile counted) (hj : s.memory = some j) (now : Nat) (m : Mutation) :
    ∃ onFile' counted', Sound J E (call J E s j now m) onFile' counted' := by
  have hcounted := h.memory j hj
  set r := Journal.recordOf now m with hr
  unfold call
  rw [← hr]
  by_cases hstored : j.isStored m
  · -- nothing is written: the record would change nothing
    have hsame : applyAll E (counted ++ [r]) = applyAll E counted := by
      rw [applyAll_append, hcounted]
      exact Journal.apply_of_isStored E hstored now
    simp only [hstored, if_true]
    refine ⟨onFile, counted ++ [r], h.disk, ?_, h.selection.keep r true, ?_, ?_⟩
    · exact fun x hx => subset_snoc h.written r true (mem_append_left _ hx)
    · intro j' hj'
      rw [hsame]
      exact h.memory j' hj'
    · rw [hsame]
      exact h.replay
  · simp only [hstored, Bool.false_eq_true, if_false]
    have happend : applyAll E (counted ++ [r]) = j.apply E r := by
      rw [applyAll_append, hcounted]
      rfl
    cases happly : j.apply E r with
    | ok =>
      refine ⟨_, _, h.append rfl rfl ?_⟩
      intro j'' hj''
      cases hj''
      rw [happend, happly]
    | error e =>
      -- the file has a line on which every replay throws
      refine ⟨onFile ++ [r], counted, ?_, subset_snoc h.written r false, h.selection.skip r,
        h.memory, .inr ?_⟩
      · rw [text_append, ← h.disk]
      · rw [applyAll_append]
        rcases h.replay with hreplay | ⟨e', he'⟩
        · exact ⟨e, by rw [hreplay, hcounted]; exact happly⟩
        · exact ⟨e', by rw [he']; rfl⟩

lemma sound_interrupted (h : Sound J E s onFile counted) {now : Nat}
    {m : Mutation} {bytes : Nat} (hclean : Clean J s (.interrupted now m bytes)) :
    ∃ onFile' counted', Sound J E (interrupted J s j now m bytes) onFile' counted' := by
  set r := Journal.recordOf now m with hr
  have hnothing : (interrupted J s j now m bytes).disk = s.disk →
      ∃ onFile' counted', Sound J E (interrupted J s j now m bytes) onFile' counted' := by
    intro hdisk
    refine ⟨onFile, counted, hdisk.trans h.disk, ?_, h.selection.skip r, nofun, h.replay⟩
    exact fun x hx => subset_snoc h.written r false (mem_append_left _ hx)
  by_cases hstored : j.isStored m
  · exact hnothing (by simp [interrupted, hstored])
  · rcases hclean with rfl | hwhole
    · exact hnothing (by simp [interrupted])
    · refine ⟨_, _, h.append (r := r) ?_ rfl nofun⟩
      simp [interrupted, hstored, take_of_length_le hwhole, hr]

lemma step_reopen (h : step J E C s .reopen = some s') :
    ∃ text j, compacted J E C s.disk = .ok text ∧ JournalFile.replay J E text = .ok j ∧
      s' = { s with disk := text, memory := some j } := by
  have htoOption {α : Type} {x : Except String α} {a : α} : x.toOption = some a → x = .ok a := by
    cases x <;> simp [Except.toOption]
  obtain ⟨-, -, h⟩ := bind_eq_some_iff.mp h
  obtain ⟨text, htext, h⟩ := bind_eq_some_iff.mp h
  obtain ⟨j, hj, h⟩ := bind_eq_some_iff.mp h
  cases h
  exact ⟨text, j, htoOption htext, htoOption hj, rfl⟩

/-- One event keeps the file sound. -/
theorem sound_step
    (h : Sound J E s onFile counted) (hexact : ∀ r ∈ s.history.map fst, J.Exact r)
    (hclean : Clean J s e) (hstep : step J E C s e = some s') :
    ∃ onFile' counted', Sound J E s' onFile' counted' := by
  cases e with
  | call now m =>
    obtain ⟨j, hj, rfl⟩ := map_eq_some_iff.mp hstep
    exact sound_call h hj now m
  | interrupted =>
    obtain ⟨j, hj, rfl⟩ := map_eq_some_iff.mp hstep
    exact sound_interrupted h hclean
  | crash =>
    cases hstep
    exact ⟨onFile, counted, h.disk, h.written, h.selection, nofun, h.replay⟩
  | reopen =>
    obtain ⟨text, j, htext, hj, rfl⟩ := step_reopen hstep
    have hsmall : compacted J E C s.disk = .ok s.disk := if_neg (Nat.not_lt.mpr hclean)
    cases hsmall.symm.trans htext
    have hfile : applyAll E onFile = .ok j := by
      rw [JournalFile.replay, h.disk, recordsOf_text fun r hr => hexact r (h.written hr)] at hj
      exact hj
    refine ⟨onFile, counted, h.disk, h.written, h.selection, ?_, h.replay⟩
    intro j' hj'
    cases hj'
    rcases h.replay with hreplay | ⟨e, he⟩
    · rw [← hreplay, hfile]
    · rw [he] at hfile
      cases hfile

lemma history_grows (h : step J E C s e = some s') : s.history <+: s'.history := by
  cases e with
  | call =>
    obtain ⟨j, -, rfl⟩ := map_eq_some_iff.mp h
    unfold call
    dsimp only
    split
    · exact prefix_append _ _
    · split <;> exact prefix_append _ _
  | interrupted =>
    obtain ⟨j, -, rfl⟩ := map_eq_some_iff.mp h
    exact prefix_append _ _
  | crash =>
    cases h
    exact prefix_rfl
  | reopen =>
    obtain ⟨text, j, -, -, rfl⟩ := step_reopen h
    exact prefix_rfl

lemma run_append : run J E C (events ++ [e]) = some s' ↔
      ∃ s, run J E C events = some s ∧ step J E C s e = some s' := by
  rw [run, foldlM_append, bind_eq_bind, bind_eq_some_iff]
  simp [run]

/-- A clean run leaves the file sound. -/
theorem sound_run {s : State} (hrun : run J E C events = some s) (hclean : CleanRun J E C events)
    (hexact : ∀ r ∈ s.history.map fst, J.Exact r) :
    ∃ onFile counted, Sound J E s onFile counted := by
  induction events using List.reverseRecOn generalizing s with
  | nil =>
    cases hrun
    exact ⟨[], [], rfl, List.Subset.refl _, ⟨.refl _, .refl _⟩, nofun, .inl rfl⟩
  | append_singleton events e ih =>
    obtain ⟨s0, hrun0, hstep⟩ := run_append.mp hrun
    have hsub : s0.history.map fst ⊆ s.history.map fst :=
      map_subset _ (history_grows hstep).subset
    obtain ⟨onFile, counted, hsound⟩ := ih hrun0 (fun before e' s' hbefore =>
        hclean before e' s' (hbefore.trans (prefix_append events [e])))
      (fun r hr => hexact r (hsub hr))
    exact sound_step hsound (fun r hr => hexact r (hsub hr))
      (hclean events e s0 prefix_rfl hrun0) hstep

def ascii (text : String) : Bytes := text.toList.map fun c => c.toNat.toUInt8

def cursorHead : Bytes := ascii "\x7b\"t\":\"cursor\",\"chainId\":"

def cursorMiddle : Bytes := ascii ",\"block\":"

def cursorEnd : Bytes := ascii "\x7d"

/-- What is left of a text behind a given beginning. -/
def strip : Bytes → Bytes → Option Bytes
  | [], text => some text
  | b :: rest, b' :: text => if b = b' then strip rest text else none
  | _ :: _, [] => none

/-- The number at the beginning of a text, and the rest. -/
def takeNumber (text : Bytes) : Option (Nat × Bytes) :=
  match text.span fun b => 48 ≤ b && b ≤ 57 with
  | ([], _) => none
  | (digits, rest) => some (digits.foldl (fun n b => 10 * n + (b.toNat - 48)) 0, rest)

/-- The runtime on the records of cursors. -/
def cursorJson : Json where
  stringify
    | .cursor chainId block =>
      cursorHead ++ ascii (toString chainId) ++ cursorMiddle ++ ascii (toString block) ++ cursorEnd
    | _ => ascii "null"
  parse text := do
    let (chainId, text) ← takeNumber (← strip cursorHead text)
    let (block, text) ← takeNumber (← strip cursorMiddle text)
    guard (text = cursorEnd)
    return .cursor chainId block

lemma cleanRun_nil : CleanRun J E C [] := by
  intro before e s h
  simp at h

lemma CleanRun.snoc (h : CleanRun J E C events)
    (he : ∀ s, run J E C events = some s → Clean J s e) : CleanRun J E C (events ++ [e]) := by
  intro before e' s hbefore hrun
  rcases prefix_concat_iff.mp hbefore with heq | hprefix
  · obtain ⟨rfl, he'⟩ := append_inj' heq rfl
    cases he'
    exact he s hrun
  · exact h before e' s hprefix hrun

/-- A crash that leaves nothing of an append, and a store that is opened again. -/
def cleanEvents : List Event :=
  [.reopen, .call 0 (.setCursor 1 5), .interrupted 0 (.setCursor 1 7) 0, .reopen]

def cleanState : State := (run cursorJson plainEthers plainCollation cleanEvents).get
  (by decide +kernel)

def cleanMemory : Journal := cleanState.memory.get (by decide +kernel)

lemma cleanRun_cleanEvents : CleanRun cursorJson plainEthers plainCollation cleanEvents := by
  have hopen (events : List Event) (hsmall : ∀ s ∈ run cursorJson plainEthers plainCollation events,
      s.disk.length ≤ JOURNAL_COMPACT_BYTES) :
      ∀ s, run cursorJson plainEthers plainCollation events = some s → Clean cursorJson s .reopen :=
    hsmall
  have h1 : CleanRun cursorJson plainEthers plainCollation [.reopen] :=
    cleanRun_nil.snoc (hopen [] (by decide +kernel))
  have h2 := h1.snoc (e := .call 0 (.setCursor 1 5)) fun _ _ => trivial
  have h3 := h2.snoc (e := .interrupted 0 (.setCursor 1 7) 0) fun _ _ => .inl rfl
  exact h3.snoc (hopen _ (by decide +kernel))

/-- A crash that leaves the first twenty bytes of a line, a call that returns after the
store was opened again, and a second crash. -/
def tornEvents : List Event :=
  [.reopen, .call 0 (.setCursor 1 5), .interrupted 0 (.setCursor 1 7) 20, .reopen,
   .call 0 (.setCursor 1 9), .crash, .reopen]

def tornState : State := (run cursorJson plainEthers plainCollation tornEvents).get
  (by decide +kernel)

def tornMemory : Journal := tornState.memory.get (by decide +kernel)

end JournalFile

end Ferminux.Relayer
