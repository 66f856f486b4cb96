import SurfaceGate.Proofs.Outline.Mirror

/-!
What the lines of the host say.

Two lines stand for calls that no engine hears of: that the activity is opened, and that a surface comes,
be it that it is refused behind the end. All other lines of the host are plain, and so is everything else
that is no call of the engine. An activity is introduced if it was opened at most once, and before any
surface came. A line may also accuse the caller of a wrong order; what neither announces nor accuses is quiet.
-/

namespace SurfaceGate

variable {E : Engine} {H α : Type}

def GateError.violation? : GateError → Option Violation
  | .ordering violation => some violation
  | _ => none

/-- The violation that an answer reports. -/
def violation? : Except GateError α → Option Violation
  | .error error => error.violation?
  | .ok _ => none

def Answer.violation? : Answer → Option Violation
  | .result answered => SurfaceGate.violation? answered
  | _ => none

namespace Entry

def Opens (entry : Entry E H) : Prop :=
  ∃ greeting : String, entry = .line .host ⟨.info, s!"activity created; engine link: {greeting}"⟩

/-- A surface comes; behind the end of the activity it is refused. -/
def Changes (entry : Entry E H) : Prop :=
  (∃ size : Extent, entry = .line .host ⟨.info, s!"surface changed: {size.width}x{size.height}"⟩) ∨
    ∃ stage : Stage, entry = .line .host
      ⟨.error, s!"ordering violation in state {stage.shown}: {Violation.adoptAfterEnd.message}"⟩

/-- Neither the activity is opened nor does a surface come, nor is the engine called. -/
structure Plain (entry : Entry E H) : Prop where
  uncalled : entry.call? = none
  unopened : ¬entry.Opens
  unchanged : ¬entry.Changes

theorem level_eq {said told : Log.Line} (same : (.line .host said : Entry E H) = .line .host told) :
    said.level = told.level :=
  congrArg Log.Line.level (Entry.line.inj same).2

theorem text_eq {said told : Log.Line} (same : (.line .host said : Entry E H) = .line .host told) :
    said.text = told.text :=
  congrArg Log.Line.text (Entry.line.inj same).2

theorem not_opens_of_changes {entry : Entry E H} (changes : entry.Changes) : ¬entry.Opens := by
  rintro ⟨greeting, rfl⟩
  rcases changes with ⟨size, same⟩ | ⟨stage, same⟩
  · have first := congrArg (fun text => text.toList.head?) (text_eq same)
    simp [toString] at first
  · exact nomatch level_eq same

theorem Changes.uncalled {entry : Entry E H} (changes : entry.Changes) : entry.call? = none := by
  rcases changes with ⟨_, rfl⟩ | ⟨_, rfl⟩
  · rfl
  · rfl

section Lines

theorem plain_of_unsaid {entry : Entry E H} (uncalled : entry.call? = none)
    (unsaid : ∀ line, entry ≠ .line .host line) : entry.Plain where
  uncalled := uncalled
  unopened := fun ⟨_, same⟩ => unsaid _ same
  unchanged := fun changes => changes.elim (fun ⟨_, same⟩ => unsaid _ same) fun ⟨_, same⟩ => unsaid _ same

variable {level : Log.Level} {text : String}

/-- No line of these levels is an announcement. -/
theorem plain_of_level (info : level ≠ .info) (error : level ≠ .error) :
    (.line .host ⟨level, text⟩ : Entry E H).Plain where
  uncalled := rfl
  unopened := fun ⟨_, same⟩ => info (level_eq same)
  unchanged := by
    rintro (⟨_, same⟩ | ⟨_, same⟩)
    · exact info (level_eq same)
    · exact error (level_eq same)

/-- How the texts of the announcements begin. -/
def starts : List (List Char) :=
  ["activity cr".toList, "surface cha".toList, "ordering vi".toList]

theorem plain_of_start (start : text.toList.take 11 ∉ starts) :
    (.line .host ⟨level, text⟩ : Entry E H).Plain where
  uncalled := rfl
  unopened := by
    rintro ⟨greeting, same⟩
    have said : text = _ := text_eq same
    exact start (by simp [said, starts, toString])
  unchanged := by
    rintro (⟨size, same⟩ | ⟨stage, same⟩)
    · have said : text = _ := text_eq same
      exact start (by simp [said, starts, toString])
    · have said : text = _ := text_eq same
      exact start (by simp [said, starts, toString])

/-- A refusal is told by its stage and its reason. -/
theorem plain_of_refusal {violation : Violation} (stage : Stage)
    (other : violation.message ≠ Violation.adoptAfterEnd.message) :
    (.line .host ⟨.error, s!"ordering violation in state {stage.shown}: {violation.message}"⟩ :
      Entry E H).Plain where
  uncalled := rfl
  unopened := fun ⟨_, same⟩ => nomatch level_eq same
  unchanged := by
    rintro (⟨_, same⟩ | ⟨stage', same⟩)
    · exact nomatch level_eq same
    · have said := congrArg String.toList (text_eq same)
      refine other (String.toList_inj.mp ?_)
      revert said
      cases stage <;> cases stage' <;> simp [toString, Stage.shown]

/-- An error speaks of the call that it ended, not of a surface that is refused. -/
theorem plain_of_error (error : GateError) :
    (.line .host ⟨.error, error.message⟩ : Entry E H).Plain := by
  have starting (call text : String) (start : ∀ rest, (call.toList ++ rest).take 11 ∉ starts) :
      (.line .host ⟨.error, call ++ text⟩ : Entry E H).Plain := by
    refine plain_of_start ?_
    rw [String.toList_append]
    exact start _
  cases error with
  | prepare why => exact starting "engine initialization failed: " _ fun _ => by simp [starts]
  | attach why => exact starting "surface bind failed: " _ fun _ => by simp [starts]
  | render why => exact starting "frame render failed: " _ fun _ => by simp [starts]
  | workerStart why => exact starting "failed to spawn render worker: " _ fun _ => by simp [starts]
  | ordering violation =>
      refine ⟨rfl, fun ⟨_, same⟩ => ?_, ?_⟩
      · exact nomatch level_eq same
      · rintro (⟨_, same⟩ | ⟨stage, same⟩)
        · exact nomatch level_eq same
        · have said : "ordering violation: " ++ violation.message = _ := text_eq same
          have letters := congrArg (fun text => text.toList.take 19) said
          simp [toString] at letters

end Lines

/-- The host is told that something came at the wrong time. -/
def Accuses (entry : Entry E H) : Prop :=
  ∃ text : String, entry = .line .host ⟨.error, text⟩ ∧ "ordering violation".toList <+: text.toList

/-- What the log says of a surface that comes behind the end of the activity. -/
def late : Entry E H :=
  .line .host ⟨.error, "ordering violation in state idle: surface change after activity destroyed"⟩

theorem not_accuses_of_unsaid {entry : Entry E H} (unsaid : ∀ line, entry ≠ .line .host line) :
    ¬entry.Accuses :=
  fun ⟨_, same, _⟩ => unsaid _ same

theorem not_accuses_of_level {level : Log.Level} {text : String} (other : level ≠ .error) :
    ¬(.line .host ⟨level, text⟩ : Entry E H).Accuses :=
  fun ⟨_, same, _⟩ => other (level_eq same)

theorem not_accuses_of_start {level : Log.Level} {text : String}
    (start : text.toList.head? ≠ some 'o') : ¬(.line .host ⟨level, text⟩ : Entry E H).Accuses := by
  rintro ⟨told, same, rest, begins⟩
  have said : text = told := text_eq same
  rw [said, ← begins] at start
  simp at start

theorem not_accuses_of_error {error : GateError} (other : error.violation? = none) :
    ¬(.line .host ⟨.error, error.message⟩ : Entry E H).Accuses := by
  have starting (call text : String) (start : ∀ rest, (call.toList ++ rest).head? ≠ some 'o') :
      ¬(.line .host ⟨.error, call ++ text⟩ : Entry E H).Accuses := by
    refine not_accuses_of_start ?_
    rw [String.toList_append]
    exact start _
  cases error with
  | prepare why => exact starting "engine initialization failed: " _ fun _ => by simp
  | attach why => exact starting "surface bind failed: " _ fun _ => by simp
  | render why => exact starting "frame render failed: " _ fun _ => by simp
  | workerStart why => exact starting "failed to spawn render worker: " _ fun _ => by simp
  | ordering violation => cases other

/-- Nothing is announced, and nobody is accused. -/
structure Quiet (entry : Entry E H) : Prop where
  plain : entry.Plain
  fair : ¬entry.Accuses

theorem quiet_of_unsaid {entry : Entry E H} (uncalled : entry.call? = none)
    (unsaid : ∀ line, entry ≠ .line .host line) : entry.Quiet :=
  ⟨plain_of_unsaid uncalled unsaid, not_accuses_of_unsaid unsaid⟩

theorem quiet_of_level {level : Log.Level} {text : String} (info : level ≠ .info) (error : level ≠ .error) :
    (.line .host ⟨level, text⟩ : Entry E H).Quiet :=
  ⟨plain_of_level info error, not_accuses_of_level error⟩

theorem quiet_of_start {level : Log.Level} {text : String} (start : text.toList.take 11 ∉ starts)
    (other : level ≠ .error) : (.line .host ⟨level, text⟩ : Entry E H).Quiet :=
  ⟨plain_of_start start, not_accuses_of_level other⟩

end Entry

namespace Journal

/-- The activity was opened at most once, and before every surface that came. -/
structure Introduced (journal : Journal E H) : Prop where
  once : journal.Pairwise fun entry older => ¬(entry.Opens ∧ older.Opens)
  before : ∀ entry older, entry :: older <:+ journal → entry.Changes → ∃ opening ∈ older, opening.Opens

/-- Neither was the activity opened, nor did a surface come. -/
def Unannounced (journal : Journal E H) : Prop :=
  ∀ entry ∈ journal, ¬entry.Opens ∧ ¬entry.Changes

/-- The activity was opened and introduced, or nothing was announced yet. -/
def Tells (journal : Journal E H) : Bool → Prop
  | true => journal.Introduced ∧ ∃ opening ∈ journal, opening.Opens
  | false => journal.Unannounced

variable {journal : Journal E H} {entry : Entry E H}

theorem Unannounced.cons (unannounced : journal.Unannounced) (opens : ¬entry.Opens)
    (changes : ¬entry.Changes) : Unannounced (entry :: journal) :=
  List.forall_mem_cons.mpr ⟨⟨opens, changes⟩, unannounced⟩

theorem Introduced.cons (introduced : journal.Introduced) (opens : ¬entry.Opens)
    (changes : entry.Changes → ∃ opening ∈ journal, opening.Opens) : Introduced (entry :: journal) where
  once := .cons (fun _ _ both => opens both.1) introduced.once
  before made older suffix change := by
    rcases List.suffix_cons_iff.mp suffix with same | earlier
    · obtain ⟨rfl, rfl⟩ := List.cons.inj same
      exact changes change
    · exact introduced.before made older earlier change

theorem Unannounced.introduced (unannounced : journal.Unannounced) : journal.Introduced where
  once := List.pairwise_of_forall_mem_list fun entry made _ _ both => (unannounced entry made).1 both.1
  before made _ suffix change :=
    absurd change (unannounced made (suffix.subset List.mem_cons_self)).2

/-- The activity is opened. -/
theorem Unannounced.opened (unannounced : journal.Unannounced) (opens : entry.Opens) :
    Introduced (entry :: journal) where
  once := .cons (fun older made both => (unannounced older made).1 both.2) unannounced.introduced.once
  before made older suffix change := by
    rcases List.suffix_cons_iff.mp suffix with same | earlier
    · obtain ⟨rfl, -⟩ := List.cons.inj same
      exact absurd opens (Entry.not_opens_of_changes change)
    · exact unannounced.introduced.before made older earlier change

theorem Tells.cons {opened : Bool} (tells : journal.Tells opened) (opens : ¬entry.Opens)
    (changes : ¬entry.Changes) : Tells (entry :: journal) opened := by
  cases opened with
  | true =>
      obtain ⟨introduced, opening, made, opens'⟩ := tells
      exact ⟨introduced.cons opens fun change => absurd change changes, opening, .tail _ made, opens'⟩
  | false => exact Unannounced.cons tells opens changes

theorem Tells.opened (tells : journal.Tells false) (opens : entry.Opens) : Tells (entry :: journal) true :=
  ⟨Unannounced.opened tells opens, entry, .head _, opens⟩

theorem Tells.changed (tells : journal.Tells true) (changes : entry.Changes) :
    Tells (entry :: journal) true := by
  obtain ⟨introduced, opening, made, opens⟩ := tells
  exact ⟨introduced.cons (Entry.not_opens_of_changes changes) fun _ => ⟨opening, made, opens⟩, opening,
    .tail _ made, opens⟩

theorem Tells.introduced {opened : Bool} (tells : journal.Tells opened) : journal.Introduced := by
  cases opened with
  | true => exact tells.1
  | false => exact Unannounced.introduced tells

end Journal
end SurfaceGate
