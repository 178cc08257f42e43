import LineCensus.Handover
import LineCensus.Proofs.Run.Strictness
import Mathlib.Data.List.Perm.Subperm
import Mathlib.Logic.Relation

/-!
# `Proofs.Run.Handover` — the walk's failure is not missed

The counting looks at the second channel without waiting, at a moment of its own. The look is right because
the walk lets go of the channel of files last: who sees that channel drained has the walk's failure before
him. The invariant says so phase by phase (`Accounted`): while files are received, each is in exactly one
place, and the walk has told of its failure once it is done sending; after the channel is drained, all of them
are counted and the failure is there. One lemma says what a step preserves (`Accounted.step`), and what a run
preserves follows by induction (`Reaches.accounted`).

A run need not be fair. Before there is an answer some step can be taken, and each step leaves less to do
(`Step.work_lt`), so a run that takes steps as long as there are any ends with an answer.

## Contents

* `Reaches` — runs; `Accounted` — the invariant, phase by phase;
* `Step.work_lt`, `exists_step` — every step leaves less to do, and there is one until there is an answer;
* `counts_once_and_sees_failure` — all runs;
* `exists_reaches_iff_answers` — runs of both sides, early ends included, answer what `Run.Answers` says.
-/

namespace LineCensus

/-! ## The answers of strict runs -/

namespace Census

variable {c : Catalog} {files : List Found} {walkFailure : Option Failure}

/-- Where no file fails, the failure of the walk is the strict answer. -/
theorem collect_of_clean {failure : Failure} (h : ∀ f ∈ files, ∀ failure, f.count c ≠ .error failure) :
    collect true c files (some failure) = .error failure := by
  cases hrecords : strictRecords c files with
  | ok records => simp only [collect, if_true, hrecords]
  | error failure' =>
    obtain ⟨path, hmem⟩ := exists_of_strictRecords_error hrecords
    obtain ⟨f, hf, hfailure⟩ := List.mem_filterMap.mp hmem
    obtain ⟨_, hcount, -⟩ := failureOf?_eq_some.mp hfailure
    exact absurd hcount (h f hf _)

/-- A first file that fails makes the strict answer. -/
theorem collect_of_first_fails {f : Found} {failure : Failure} (h : f.count c = .error failure) :
    collect true c (f :: files) walkFailure = .error failure := by
  have hrecords : strictRecords c (f :: files) = .error failure := by
    rw [strictRecords, List.mapM_cons, h]
    rfl
  simp only [collect, if_true, hrecords]

end Census

/-- The census of what the walk hands over, in any order, is an answer. -/
theorem Run.Answers.of_delivery {t : FileTree} {config : Config} {c : Catalog} {delivery : List Found}
    (hbuild : buildCatalog t config = .ok c)
    (hperm : (handedOver t config.walk config.filter).1.Perm delivery) :
    Answers t config
      (Census.collect config.strict c delivery (handedOver t config.walk config.filter).2) := by
  cases hwalk : walk t config.walk config.filter with
  | ok found =>
    rw [handedOver_of_ok hwalk] at hperm ⊢
    exact .delivered hbuild hwalk hperm
  | error failure =>
    rw [handedOver_of_error hwalk] at hperm ⊢
    rw [List.nil_perm.mp hperm]
    exact .refused hbuild hwalk

namespace Handover

variable {strict : Bool} {c : Catalog} {files : List Found} {failure : Option Failure} {s s' : State}

/-- One state is reached from another by steps of both sides in some order. -/
def Reaches (strict : Bool) (c : Catalog) : State → State → Prop := Relation.ReflTransGen (Step strict c)

/-! ## What a step preserves -/

/-- The files that the walk has not sent yet. -/
def Walker.unsent : Walker → List Found
  | .sending rest _ => rest
  | .leaving | .gone => []

/-- The walk has told of its failure once it is done sending, and not before. -/
def Walker.Tells (failure : Option Failure) (told : List Failure) : Walker → Prop
  | .sending _ toTell => toTell = failure ∧ told = []
  | .leaving | .gone => told = failure.toList

/-- A look at the second channel finds the failure that was told of. -/
theorem head?_toList (failure : Option Failure) : failure.toList.head? = failure := by
  cases failure <;> rfl

/-- An answer that was given when all files had been counted: by a look that has shown the failure of the
walk, or without one, by a file that failed. -/
inductive Settled (strict : Bool) (c : Catalog) (counted : List Found) (failure : Option Failure) :
    Except Failure Census → Prop where
  | looked : Settled strict c counted failure (Census.collect strict c counted failure)
  | refused {f : Found} {fault : Failure} :
      strict = true → f ∈ counted → f.count c = .error fault → Settled strict c counted failure (.error fault)

/-- While files are received each is in one place, and the failure of the walk is with the walk or told. -/
structure Underway (files : List Found) (failure : Option Failure) (s : State) : Prop where
  perm : (s.counted ++ s.inHand ++ s.waiting ++ s.walker.unsent).Perm files
  room : s.waiting.length ≤ capacity
  told : s.walker.Tells failure s.told

/-- When the channel is drained all files have been counted. -/
structure Complete (files : List Found) (s : State) : Prop where
  gone : s.walker = .gone
  empty : s.waiting = []
  perm : s.counted.Perm files

/-- After an early end nothing is said of the files that are left, nor of the failure of the walk. -/
structure Abandoned (strict : Bool) (c : Catalog) (files : List Found) (fault : Failure) (s : State) :
    Prop where
  subperm : s.counted.Subperm files
  room : s.waiting.length ≤ capacity
  strict : strict = true
  fails : ∃ f ∈ files, f.count c = .error fault

/-- Where the files and the failure of the walk are, phase by phase. -/
def Accounted (strict : Bool) (c : Catalog) (files : List Found) (failure : Option Failure) (s : State) :
    Prop :=
  match s.counting with
  | .receiving => Underway files failure s
  | .drained => Complete files s ∧ s.told = failure.toList
  | .answered answer => Complete files s ∧ Settled strict c s.counted failure answer
  | .stopped fault => Abandoned strict c files fault s

theorem accounted_of_receiving (h : s.counting = .receiving) :
    Accounted strict c files failure s ↔ Underway files failure s := by
  rw [Accounted, h]

theorem accounted_of_drained (h : s.counting = .drained) :
    Accounted strict c files failure s ↔ Complete files s ∧ s.told = failure.toList := by
  rw [Accounted, h]

theorem accounted_of_answered {answer : Except Failure Census} (h : s.counting = .answered answer) :
    Accounted strict c files failure s ↔ Complete files s ∧ Settled strict c s.counted failure answer := by
  rw [Accounted, h]

theorem accounted_of_stopped {fault : Failure} (h : s.counting = .stopped fault) :
    Accounted strict c files failure s ↔ Abandoned strict c files fault s := by
  rw [Accounted, h]

theorem accounted_start : Accounted strict c files failure (.start files failure) :=
  Iff.mpr (accounted_of_receiving rfl) ⟨.refl files, Nat.zero_le _, rfl, rfl⟩

namespace Accounted

/-- No file has been counted more often than it was found. -/
theorem counted_subperm (h : Accounted strict c files failure s) : s.counted.Subperm files := by
  cases hcounting : s.counting with
  | receiving =>
    have hperm := ((accounted_of_receiving hcounting).mp h).perm
    rw [List.append_assoc, List.append_assoc] at hperm
    exact (List.sublist_append_left _ _).subperm.trans hperm.subperm
  | drained => exact ((accounted_of_drained hcounting).mp h).1.perm.subperm
  | answered answer => exact ((accounted_of_answered hcounting).mp h).1.perm.subperm
  | stopped fault => exact ((accounted_of_stopped hcounting).mp h).subperm

/-- The channel holds no more than it can. -/
theorem waiting_le (h : Accounted strict c files failure s) : s.waiting.length ≤ capacity := by
  cases hcounting : s.counting with
  | receiving => exact ((accounted_of_receiving hcounting).mp h).room
  | drained => simp [((accounted_of_drained hcounting).mp h).1.empty]
  | answered answer => simp [((accounted_of_answered hcounting).mp h).1.empty]
  | stopped fault => exact ((accounted_of_stopped hcounting).mp h).room

/-- A step of the walk that sends nothing keeps account if it does so while files are received. -/
theorem of_walker {walker : Walker} {told : List Failure} (h : Accounted strict c files failure s)
    (hwalker : s.walker ≠ .gone)
    (hreceiving : s.counting = .receiving → walker.unsent = s.walker.unsent ∧ walker.Tells failure told) :
    Accounted strict c files failure { s with walker, told } := by
  cases hcounting : s.counting with
  | receiving =>
    obtain ⟨hperm, hroom, -⟩ := (accounted_of_receiving hcounting).mp h
    obtain ⟨hunsent, htold⟩ := hreceiving hcounting
    refine Iff.mpr (accounted_of_receiving rfl) ⟨?_, hroom, htold⟩
    rw [hunsent]
    exact hperm
  | drained => exact absurd ((accounted_of_drained hcounting).mp h).1.gone hwalker
  | answered answer => exact absurd ((accounted_of_answered hcounting).mp h).1.gone hwalker
  | stopped fault =>
    obtain ⟨hsubperm, hroom, hstrict, hfails⟩ := (accounted_of_stopped hcounting).mp h
    exact Iff.mpr (accounted_of_stopped rfl) ⟨hsubperm, hroom, hstrict, hfails⟩

/-- **Each step keeps account of the files and of the failure.** -/
theorem step (h : Accounted strict c files failure s) (hstep : Step strict c s s') :
    Accounted strict c files failure s' := by
  cases hstep with
  | send hwalker hroom hcounting =>
    obtain ⟨hperm, -, htold⟩ := (accounted_of_receiving hcounting).mp h
    rw [hwalker] at hperm htold
    refine Iff.mpr (accounted_of_receiving hcounting) ⟨?_, ?_, htold⟩
    · simpa [Walker.unsent] using hperm
    · rw [List.length_append]
      exact hroom
  | quit hwalker hcounting =>
    exact h.of_walker (by simp [hwalker]) fun hreceiving => absurd hreceiving hcounting
  | finish hwalker =>
    refine h.of_walker (by simp [hwalker]) fun hreceiving => ?_
    have htold := ((accounted_of_receiving hreceiving).mp h).told
    rw [hwalker] at htold ⊢
    obtain ⟨rfl, hnone⟩ := htold
    exact ⟨rfl, by rw [hnone]; rfl⟩
  | leave hwalker =>
    refine h.of_walker (by simp [hwalker]) fun hreceiving => ?_
    have htold := ((accounted_of_receiving hreceiving).mp h).told
    rw [hwalker] at htold ⊢
    exact ⟨rfl, htold⟩
  | receive hcounting hwaiting =>
    obtain ⟨hperm, hroom, htold⟩ := (accounted_of_receiving hcounting).mp h
    rw [hwaiting] at hperm hroom
    refine Iff.mpr (accounted_of_receiving hcounting) ⟨?_, Nat.le_of_succ_le hroom, htold⟩
    simpa using hperm
  | @count f before after hcounting hinHand =>
    obtain ⟨hperm, hroom, htold⟩ := (accounted_of_receiving hcounting).mp h
    rw [hinHand] at hperm
    refine Iff.mpr (accounted_of_receiving hcounting) ⟨.trans ?_ hperm, hroom, htold⟩
    -- the file moves from among those in hand to the end of those that are counted
    have hmoved : (s.counted ++ [f] ++ (before ++ after)).Perm (s.counted ++ (before ++ f :: after)) := by
      rw [List.append_assoc, List.singleton_append]
      exact List.perm_middle.symm.append_left _
    exact (hmoved.append_right _).append_right _
  | drain hcounting hwalker hwaiting hinHand =>
    obtain ⟨hperm, -, htold⟩ := (accounted_of_receiving hcounting).mp h
    rw [hwalker] at hperm htold
    refine Iff.mpr (accounted_of_drained rfl) ⟨⟨hwalker, hwaiting, ?_⟩, htold⟩
    simpa [hwaiting, hinHand, Walker.unsent] using hperm
  | look hcounting =>
    obtain ⟨⟨hgone, hempty, hperm⟩, htold⟩ := (accounted_of_drained hcounting).mp h
    rw [htold, head?_toList]
    exact Iff.mpr (accounted_of_answered rfl) ⟨⟨hgone, hempty, hperm⟩, .looked⟩
  | refuse hcounting hstrict hf hcount =>
    obtain ⟨⟨hgone, hempty, hperm⟩, -⟩ := (accounted_of_drained hcounting).mp h
    exact Iff.mpr (accounted_of_answered rfl) ⟨⟨hgone, hempty, hperm⟩, .refused hstrict hf hcount⟩
  | stop hcounting hstrict hf hcount =>
    have hsubperm := h.counted_subperm
    exact Iff.mpr (accounted_of_stopped rfl)
      ⟨hsubperm, h.waiting_le, hstrict, _, hsubperm.subset hf, hcount⟩

end Accounted

/-- **Each state of a run keeps account of the files and of the failure.** -/
theorem Reaches.accounted (h : Reaches strict c (.start files failure) s) :
    Accounted strict c files failure s := by
  induction h with
  | refl => exact accounted_start
  | tail _ hstep ih => exact ih.step hstep

/-! ## Every run ends -/

/-- What is left of the walk: each of its files is sent, received and counted, and then it ends. -/
def Walker.work : Walker → Nat
  | .sending rest _ => 3 * rest.length + 2
  | .leaving => 1
  | .gone => 0

/-- What is left of the counting besides files. -/
def Counting.work : Counting → Nat
  | .receiving => 2
  | .drained => 1
  | .answered _ | .stopped _ => 0

/-- What is left to do, in steps at most. -/
def State.work (s : State) : Nat :=
  s.walker.work + 2 * s.waiting.length + s.inHand.length + s.counting.work

/-- Every step leaves less to do. -/
theorem Step.work_lt (h : Step strict c s s') : s'.work < s.work := by
  unfold State.work
  cases h with
  | send hwalker =>
    simp only [hwalker, Walker.work, List.length_append, List.length_cons, List.length_nil]
    omega
  | quit hwalker => simp only [hwalker, Walker.work, List.length_cons]; omega
  | finish hwalker => simp only [hwalker, Walker.work, List.length_nil]; omega
  | leave hwalker => simp only [hwalker, Walker.work]; omega
  | receive _ hwaiting => simp only [hwaiting, List.length_append, List.length_cons, List.length_nil]; omega
  | count _ hinHand => simp only [hinHand, List.length_append, List.length_cons]; omega
  | drain hcounting => simp only [hcounting, Counting.work]; omega
  | look hcounting => simp only [hcounting, Counting.work]; omega
  | refuse hcounting => simp only [hcounting, Counting.work]; omega
  | stop hcounting => simp only [hcounting, Counting.work]; omega

/-- Until there is an answer, one of the sides can take a step. -/
theorem exists_step (h : s.answer? = none) : ∃ s', Step strict c s s' := by
  cases hcounting : s.counting with
  | receiving =>
    cases hinHand : s.inHand with
    | cons f rest =>
      have hfirst : s.inHand = [] ++ f :: rest := hinHand
      exact ⟨_, .count hcounting hfirst⟩
    | nil =>
      cases hwaiting : s.waiting with
      | cons f rest => exact ⟨_, .receive hcounting hwaiting⟩
      | nil =>
        -- nothing can be counted or received: it is the walk's turn, if it is not gone
        cases hwalker : s.walker with
        | sending rest toTell =>
          cases rest with
          | cons f rest => exact ⟨_, .send hwalker (by simp [hwaiting, capacity]) hcounting⟩
          | nil => exact ⟨_, .finish hwalker⟩
        | leaving => exact ⟨_, .leave hwalker⟩
        | gone => exact ⟨_, .drain hcounting hwalker hwaiting hinHand⟩
  | drained =>
    by_cases hfails : strict = true ∧ ∃ f ∈ s.counted, ∃ failure, f.count c = .error failure
    · obtain ⟨hstrict, f, hf, failure, hcount⟩ := hfails
      exact ⟨_, .refuse hcounting hstrict hf hcount⟩
    · refine ⟨_, .look hcounting fun hstrict f hf failure hcount => ?_⟩
      exact hfails ⟨hstrict, f, hf, failure, hcount⟩
  | answered answer => simp [State.answer?, hcounting] at h
  | stopped failure => simp [State.answer?, hcounting] at h

/-! ## All runs -/

/-- **Every file is counted once, and the failure of the walk is seen.** In any state of a run there is room
in the channel, and no file has been counted more often than it was found. Once the channel is drained, each
file has been counted and a look finds the failure of the walk, if there is one. So if the run answers without
an early end, a lenient answer accounts for each file once and lists the failure; and a strict answer, if no
file failed, is that failure. An early end is that of a strict run, and due to a file that failed. No state
without an answer is the last one, and no run goes on for ever. -/
theorem counts_once_and_sees_failure (hrun : Reaches strict c (.start files failure) s) :
    s.waiting.length ≤ capacity ∧ s.counted.Subperm files ∧
    (s.counting = .drained → s.counted.Perm files ∧ s.told.head? = failure) ∧
    (∀ answer, s.counting = .answered answer →
      s.counted.Perm files ∧
      (strict = false → ∃ census, answer = .ok census ∧ census.Accounts c s.counted failure ∧
        ∀ fault, failure = some fault → (walkPath, fault) ∈ census.failures) ∧
      (strict = true → (∀ f ∈ files, ∀ fault, f.count c ≠ .error fault) →
        answer = Census.collect strict c s.counted failure ∧
          ∀ fault, failure = some fault → answer = .error fault)) ∧
    (∀ fault, s.counting = .stopped fault → strict = true ∧ ∃ f ∈ files, f.count c = .error fault) ∧
    (s.answer? = none → ∃ s', Step strict c s s') ∧ ∀ s', Step strict c s s' → s'.work < s.work := by
  have h := hrun.accounted
  refine ⟨h.waiting_le, h.counted_subperm, ?_, ?_, ?_, exists_step, fun s' => Step.work_lt⟩
  · intro hdrained
    obtain ⟨hcomplete, htold⟩ := (accounted_of_drained hdrained).mp h
    exact ⟨hcomplete.perm, by rw [htold, head?_toList]⟩
  · intro answer hanswer
    obtain ⟨hcomplete, hsettled⟩ := (accounted_of_answered hanswer).mp h
    refine ⟨hcomplete.perm, ?_, ?_⟩
    · rintro rfl
      cases hsettled with
      | looked =>
        refine ⟨_, Census.collect_eq_ofFound, Census.ofFound_accounts, ?_⟩
        rintro fault rfl
        exact List.mem_append_right _ List.mem_cons_self
      | refused hstrict => cases hstrict
    · rintro rfl hclean
      cases hsettled with
      | looked =>
        refine ⟨rfl, ?_⟩
        rintro fault rfl
        exact Census.collect_of_clean fun f hf => hclean f (hcomplete.perm.subset hf)
      | refused _ hf hcount => exact absurd hcount (hclean _ (hcomplete.perm.subset hf) _)
  · intro fault hstopped
    have habandoned := (accounted_of_stopped hstopped).mp h
    exact ⟨habandoned.strict, habandoned.fails⟩

/-- The walk tells of its failure while the one file is still in hand. -/
theorem counts_once_and_sees_failure_file_in_hand :
    let c := Catalog.empty.register ⟨"Shell", ["sh"], [.lineComment ['#']]⟩
    let f : Found := ⟨.ofString "a.sh", 1, .ok [0x23]⟩
    let fault : Failure := .config (.missingPath (.ofString "gone"))
    ∃ s census, Reaches false c (.start [f] (some fault)) s ∧ s.answer? = some (.ok census) ∧
      s.counted.Perm [f] ∧ (walkPath, fault) ∈ census.failures := by
  intro c f fault
  have hreceived : Reaches false c (.start [f] (some fault)) _ :=
    .tail (.tail .refl (.send rfl (by decide) rfl)) (.receive rfl rfl)
  have htold := hreceived.tail (.finish rfl)
  have hcounted := htold.tail (.count (f := f) rfl (List.nil_append [f]).symm)
  have hdrained := (hcounted.tail (.leave rfl)).tail (.drain rfl rfl rfl rfl)
  have hlooked := hdrained.tail (.look rfl (by simp))
  obtain ⟨-, -, -, hanswered, -⟩ := counts_once_and_sees_failure hlooked
  obtain ⟨hfiles, hlenient, -⟩ := hanswered _ rfl
  obtain ⟨census, hcensus, -, hfailure⟩ := hlenient rfl
  exact ⟨_, census, hlooked, congrArg some hcensus, hfiles, hfailure fault rfl⟩

/-! ## The answers of runs -/

/-- The walk sends all its files, and each is received before the next is sent. -/
theorem reaches_received (unsent : List Found) {inHand counted : List Found} :
    Reaches strict c ⟨.sending unsent failure, [], [], inHand, counted, .receiving⟩
      ⟨.sending [] failure, [], [], inHand ++ unsent, counted, .receiving⟩ := by
  induction unsent generalizing inHand with
  | nil =>
    rw [List.append_nil]
    exact .refl
  | cons f rest ih =>
    have hreceived : Reaches strict c ⟨.sending (f :: rest) failure, [], [], inHand, counted, .receiving⟩
        ⟨.sending rest failure, [], [], inHand ++ [f], counted, .receiving⟩ :=
      .tail (.single (.send rfl (by simp [capacity]) rfl)) (.receive rfl rfl)
    have hrest := hreceived.trans ih
    rwa [List.append_assoc] at hrest

/-- The files in hand are done in any order. -/
theorem reaches_counted {walker : Walker} {told : List Failure} {inHand counted delivery : List Found}
    (h : inHand.Perm delivery) :
    Reaches strict c ⟨walker, [], told, inHand, counted, .receiving⟩
      ⟨walker, [], told, [], counted ++ delivery, .receiving⟩ := by
  induction delivery generalizing inHand counted with
  | nil =>
    rw [h.eq_nil, List.append_nil]
    exact .refl
  | cons f rest ih =>
    obtain ⟨before, after, rfl⟩ := List.append_of_mem (h.symm.subset List.mem_cons_self)
    have hrest : (before ++ after).Perm rest := (List.perm_middle.symm.trans h).cons_inv
    have hfirst : Step strict c ⟨walker, [], told, before ++ f :: after, counted, .receiving⟩
        ⟨walker, [], told, before ++ after, counted ++ [f], .receiving⟩ := .count rfl rfl
    have hcounted := Relation.ReflTransGen.head hfirst (ih hrest)
    rwa [List.append_assoc] at hcounted

/-- Files may have been counted in any order when the channel is drained. -/
theorem reaches_drained {delivery : List Found} (h : files.Perm delivery) :
    Reaches strict c (.start files failure)
      ⟨.gone, [], failure.toList, [], delivery, .drained⟩ := by
  have hreceived : Reaches strict c (.start files failure)
      ⟨.sending [] failure, [], [], files, [], .receiving⟩ := reaches_received files
  have hcounted := hreceived.trans (reaches_counted h)
  exact ((hcounted.tail (.finish rfl)).tail (.leave rfl)).tail (.drain rfl rfl rfl rfl)

/-- The census of the files in any order is the answer of some run. -/
theorem exists_reaches_collect {delivery : List Found} (h : files.Perm delivery) :
    ∃ s, Reaches strict c (.start files failure) s ∧
      s.answer? = some (Census.collect strict c delivery failure) := by
  have hdrained : Reaches strict c (.start files failure) _ := reaches_drained h
  have hlook (hclean : strict = true → ∀ f ∈ delivery, ∀ fault, f.count c ≠ .error fault) :
      ∃ s, Reaches strict c (.start files failure) s ∧
        s.answer? = some (Census.collect strict c delivery failure) := by
    refine ⟨_, hdrained.tail (.look rfl hclean), ?_⟩
    simp only [State.answer?, head?_toList]
  cases strict with
  | false => exact hlook fun hstrict => nomatch hstrict
  | true =>
    cases hall : delivery.mapM fun f : Found => f.count c with
    | ok records =>
      refine hlook fun _ f hf fault hcount => ?_
      obtain ⟨record, hrecord⟩ := ok_of_mapM_eq_ok hall hf
      cases hcount.symm.trans hrecord
    | error fault =>
      obtain ⟨f, hf, hcount⟩ := exists_of_mapM_eq_error hall
      refine ⟨_, hdrained.tail (.refuse rfl rfl hf hcount), ?_⟩
      have hrecords : strictRecords c delivery = .error fault := by
        rw [strictRecords, hall]
        rfl
      simp only [State.answer?, Census.collect, if_true, hrecords]

/-- The answer of a run is the census of the files in some order. -/
theorem exists_delivery_of_reaches {answer : Except Failure Census}
    (hrun : Reaches strict c (.start files failure) s) (hanswer : s.answer? = some answer) :
    ∃ delivery, files.Perm delivery ∧ answer = Census.collect strict c delivery failure := by
  have h := hrun.accounted
  -- a file that fails makes the answer if it is put first
  have hfirst {f : Found} {fault : Failure} (hf : f ∈ files) (hcount : f.count c = .error fault) :
      ∃ delivery, files.Perm delivery ∧ .error fault = Census.collect true c delivery failure := by
    obtain ⟨before, after, rfl⟩ := List.append_of_mem hf
    exact ⟨_, List.perm_middle, (Census.collect_of_first_fails hcount).symm⟩
  cases hcounting : s.counting with
  | receiving => simp [State.answer?, hcounting] at hanswer
  | drained => simp [State.answer?, hcounting] at hanswer
  | answered given =>
    obtain rfl : given = answer := by simpa [State.answer?, hcounting] using hanswer
    obtain ⟨hcomplete, hsettled⟩ := (accounted_of_answered hcounting).mp h
    cases hsettled with
    | looked => exact ⟨s.counted, hcomplete.perm.symm, rfl⟩
    | refused hstrict hf hcount =>
      obtain rfl := hstrict
      exact hfirst (hcomplete.perm.subset hf) hcount
  | stopped fault =>
    obtain rfl : .error fault = answer := by simpa [State.answer?, hcounting] using hanswer
    obtain ⟨-, -, rfl, f, hf, hcount⟩ := (accounted_of_stopped hcounting).mp h
    exact hfirst hf hcount

/-- **Runs of both sides answer what a run over the tree may answer**, early ends included, and nothing
else. -/
theorem exists_reaches_iff_answers {t : FileTree} {config : Config} {answer : Except Failure Census}
    (hbuild : buildCatalog t config = .ok c) :
    (∃ s, Reaches config.strict c (.start (Run.handedOver t config.walk config.filter).1
        (Run.handedOver t config.walk config.filter).2) s ∧ s.answer? = some answer) ↔
      Run.Answers t config answer := by
  constructor
  · rintro ⟨s, hrun, hanswer⟩
    obtain ⟨delivery, hperm, rfl⟩ := exists_delivery_of_reaches hrun hanswer
    exact .of_delivery hbuild hperm
  · intro hanswers
    obtain ⟨delivery, hperm, rfl⟩ := Run.Answers.exists_delivery hbuild hanswers
    exact exists_reaches_collect hperm

end Handover

end LineCensus
