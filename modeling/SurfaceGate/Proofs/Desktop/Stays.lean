import SurfaceGate.Proofs.Desktop.Touches

/-!
The stays of contacts in a history of reports.

A stay begins with the report that brings a new contact down, and ends with the one that lifts it or cancels
all. Its identity is the least that is free at its beginning. Behind any reports the contacts are the stays
that have not ended, in the order in which they began, each where it was told last. A batch lists these and,
once more, those that its own report ends.
-/

namespace SurfaceGate.Desktop

open Input

/-- The report takes the contact away: it goes up, or all are cancelled. -/
def Touch.removes (touch : Touch) (contact : Contact) : Bool :=
  touch.stroke = .isCancelled || (touch.stroke = .goesUp && touch.contact = contact)

/-- The report tells where the contact is, if it is down. -/
def Touch.tells (touch : Touch) (contact : Contact) : Bool :=
  (touch.stroke = .moves || touch.stroke = .goesUp) && touch.contact = contact

namespace Contacts

variable {c : Contacts} {contact : Contact} {touch : Touch}

def hear (c : Contacts) (touch : Touch) : Option Motion × Contacts :=
  c.strike touch.contact touch.stroke touch.position

/-- The contacts behind some reports. -/
def after (reports : List Touch) : Contacts :=
  reports.foldl (fun c touch => (c.hear touch).2) empty

theorem after_concat (reports : List Touch) (touch : Touch) :
    after (reports ++ [touch]) = ((after reports).hear touch).2 := by
  rw [after, List.foldl_append]
  rfl

theorem distinct_after (reports : List Touch) : (after reports).Distinct := by
  induction reports using List.reverseRecOn with
  | nil => exact distinct_empty
  | append_singleton reports touch ih =>
      rw [after_concat]
      exact ih.strike touch.contact touch.stroke touch.position

/-- The report is about nothing: a contact that is down goes down, one that is not moves or goes up, or
there is none to be cancelled. -/
def Ignores (c : Contacts) (touch : Touch) : Prop :=
  match touch.stroke with
  | .goesDown => ∃ s, (touch.contact, s) ∈ c.held
  | .moves | .goesUp => ∀ s, (touch.contact, s) ∉ c.held
  | .isCancelled => c.held = []

/-- The contacts that the batch of a report lists. -/
def shown (c : Contacts) (touch : Touch) : Contacts :=
  match touch.stroke with
  | .goesDown => if c.isDown touch.contact then c else c.joined touch.contact touch.position
  | .moves | .goesUp => c.place touch.contact touch.position
  | .isCancelled => c

theorem isDown_iff : c.isDown contact = true ↔ ∃ s, (contact, s) ∈ c.held := by
  rw [isDown, Option.isSome_iff_ne_none, Ne, index?_eq_none_iff]
  simp

theorem place_of_absent (absent : ∀ s, (contact, s) ∉ c.held) (position : Point) :
    c.place contact position = c := by
  have still : (c.place contact position).held = c.held := by
    rw [held_place]
    refine (List.map_congr_left fun entry there => placed_other ?_ position entry.2).trans
      (List.map_id _)
    rintro rfl
    exact absent entry.2 there
  exact congrArg Contacts.mk still

/-- A contact is in the row once, so taking it out by its index takes out all that is about it. -/
theorem eraseIdx_eq_filter {row : List (Contact × Sample)} {i : Nat} {s : Sample}
    (once : (row.map Prod.fst).Nodup) (here : row[i]? = some (contact, s)) :
    row.eraseIdx i = row.filter fun entry => entry.1 ≠ contact := by
  induction row generalizing i with
  | nil => cases here
  | cons entry rest ih =>
      obtain ⟨first, others⟩ := List.nodup_cons.mp once
      cases i with
      | zero =>
          cases Option.some.inj here
          have kept : rest.filter (fun e => e.1 ≠ contact) = rest := by
            refine List.filter_eq_self.mpr fun e there => decide_eq_true ?_
            rintro rfl
            exact first (List.mem_map.mpr ⟨e, there, rfl⟩)
          rw [List.eraseIdx_cons_zero, List.filter_cons_of_neg (by simp), kept]
      | succ i =>
          have differs : entry.1 ≠ contact := by
            rintro rfl
            exact first (List.mem_map.mpr ⟨_, List.mem_of_getElem? here, rfl⟩)
          simp [differs, ih others here]

theorem hear_of_ignores (ignored : c.Ignores touch) : c.hear touch = (none, c) := by
  obtain ⟨contact, stroke, position⟩ := touch
  rcases c.strike_cases contact stroke position with
    quiet | ⟨rfl, new⟩ | ⟨rfl, i, found⟩ | ⟨rfl, i, found⟩ | ⟨rfl, some_held⟩
  · exact quiet
  · obtain ⟨s, there⟩ := ignored
    exact absurd there (new s)
  · obtain ⟨s, here⟩ := exists_of_index? found
    exact absurd (List.mem_of_getElem? here) (ignored s)
  · obtain ⟨s, here⟩ := exists_of_index? found
    exact absurd (List.mem_of_getElem? here) (ignored s)
  · exact absurd ignored some_held

theorem shown_of_ignores (ignored : c.Ignores touch) : c.shown touch = c := by
  obtain ⟨contact, stroke, position⟩ := touch
  cases stroke with
  | goesDown => exact if_pos (isDown_iff.mpr ignored)
  | moves | goesUp => exact place_of_absent ignored position
  | isCancelled => rfl

theorem shown_of_new (new : ∀ s, (contact, s) ∉ c.held) (position : Point) :
    c.shown ⟨contact, .goesDown, position⟩ = c.joined contact position := by
  refine if_neg fun down => ?_
  obtain ⟨s, there⟩ := isDown_iff.mp down
  exact new s there

theorem held_shown (brings : touch.stroke = .goesDown → c.Ignores touch) :
    (c.shown touch).held =
      c.held.map fun (d, s) => (d, if touch.tells d then { s with position := touch.position } else s) := by
  obtain ⟨contact, stroke, position⟩ := touch
  have still : c.held = c.held.map fun (d, s) => (d, s) := (List.map_id _).symm
  cases stroke with
  | goesDown =>
      rw [shown_of_ignores (brings rfl)]
      exact still
  | moves | goesUp =>
      refine (held_place c contact position).trans (List.map_congr_left fun ⟨d, s⟩ _ => ?_)
      by_cases here : d = contact
      · simp [Touch.tells, placed, here]
      · simp [Touch.tells, placed, here, Ne.symm here]
  | isCancelled => exact still

/-- A report that is heard becomes a batch of what it shows, and leaves of that what it does not remove. -/
theorem Distinct.hear_eq (distinct : c.Distinct) (heard : ¬ c.Ignores touch) :
    ∃ code, c.hear touch = (some ⟨code, (c.shown touch).samples⟩,
      ⟨(c.shown touch).held.filter fun entry => !touch.removes entry.1⟩) := by
  obtain ⟨contact, stroke, position⟩ := touch
  cases stroke with
  | goesDown =>
      have new : ∀ s, (contact, s) ∉ c.held := fun s there => heard ⟨s, there⟩
      refine ⟨(Action.down c.held.length).toCode (c.held.length + 1), ?_⟩
      rw [shown_of_new new]
      exact (goDown_of_new new position).trans (by simp [Touch.removes])
  | moves =>
      obtain ⟨s, there⟩ : ∃ s, (contact, s) ∈ c.held := by simpa [Ignores] using heard
      obtain ⟨i, found⟩ := exists_index? there
      exact ⟨Code.move, (move_of_held found position).trans (by simp [Touch.removes, shown])⟩
  | goesUp =>
      obtain ⟨s, there⟩ : ∃ s, (contact, s) ∈ c.held := by simpa [Ignores] using heard
      obtain ⟨i, found⟩ := exists_index? there
      obtain ⟨t, here⟩ := exists_of_index? found
      refine ⟨(Action.up i).toCode (c.place contact position).held.length,
        (goUp_of_held found position).trans ?_⟩
      rw [eraseIdx_eq_filter (distinct.place contact position).contacts
        (getElem?_place_self here position)]
      simp [Touch.removes, shown, eq_comm]
  | isCancelled =>
      refine ⟨Action.cancel.toCode c.held.length, (cancel_of_held heard).trans ?_⟩
      simp [Touch.removes, shown, empty]

theorem Ignores.removes_eq_false (ignored : c.Ignores touch) {entry : Contact × Sample}
    (there : entry ∈ c.held) : touch.removes entry.1 = false := by
  obtain ⟨contact, stroke, position⟩ := touch
  cases stroke with
  | goesDown | moves => rfl
  | goesUp =>
      have differs : contact ≠ entry.1 := by
        rintro rfl
        exact ignored entry.2 there
      simp [Touch.removes, differs]
  | isCancelled =>
      rw [show c.held = [] from ignored] at there
      cases there

theorem Distinct.held_hear (distinct : c.Distinct) (touch : Touch) :
    (c.hear touch).2.held = (c.shown touch).held.filter fun entry => !touch.removes entry.1 := by
  by_cases ignored : c.Ignores touch
  · rw [hear_of_ignores ignored, shown_of_ignores ignored]
    exact (List.filter_eq_self.mpr fun entry there => by simp [ignored.removes_eq_false there]).symm
  · obtain ⟨code, heard⟩ := distinct.hear_eq ignored
    rw [heard]

end Contacts

/-- A contact goes down behind some reports, and others follow. -/
structure Stay where
  before : List Touch
  contact : Contact
  position : Point
  identity : Nat
  later : List Touch

namespace Stay

def reports (s : Stay) : List Touch :=
  s.before ++ ⟨s.contact, .goesDown, s.position⟩ :: s.later

/-- Where the contact is by the last report that tells it. -/
def place (s : Stay) : Point :=
  ((s.later.filter (·.tells s.contact)).getLast?.map Touch.position).getD s.position

def sample (s : Stay) : Sample :=
  ⟨s.identity, s.place⟩

/-- The contact is a new one, and its identity the least that is free. -/
structure Begins (s : Stay) : Prop where
  new : ∀ x, (s.contact, x) ∉ (Contacts.after s.before).held
  least : (Contacts.after s.before).LeastFree s.identity

/-- The contact is still down behind the reports. -/
structure Lasts (s : Stay) (reports : List Touch) : Prop extends Begins s where
  history : s.reports = reports
  kept : ∀ touch ∈ s.later, touch.removes s.contact = false

/-- The contact is down when the last of the reports comes. -/
structure Shows (s : Stay) (reports : List Touch) : Prop extends Begins s where
  history : s.reports = reports
  kept : ∀ touch ∈ s.later.dropLast, touch.removes s.contact = false

/-- The row consists of the stays of a kind, in the order in which they began. -/
def Fill (kind : Stay → Prop) (row : List (Contact × Sample)) : Prop :=
  ∃ stays : List Stay, row = stays.map (fun s => (s.contact, s.sample)) ∧
    (∀ s, s ∈ stays ↔ kind s) ∧ stays.Pairwise fun a b => a.before.length < b.before.length

variable {s : Stay} {reports : List Touch} {touch : Touch}

def extend (s : Stay) (touch : Touch) : Stay :=
  { s with later := s.later ++ [touch] }

theorem place_extend (s : Stay) (touch : Touch) :
    (s.extend touch).place = if touch.tells s.contact then touch.position else s.place := by
  rw [place, extend, List.filter_append]
  cases told : touch.tells s.contact <;> simp [told, place]

theorem sample_extend (s : Stay) (touch : Touch) :
    (s.extend touch).sample =
      if touch.tells s.contact then { s.sample with position := touch.position } else s.sample := by
  rw [sample, place_extend]
  split <;> rfl

theorem reports_extend (s : Stay) (touch : Touch) : (s.extend touch).reports = s.reports ++ [touch] := by
  simp [reports, extend]

theorem begins_extend : (s.extend touch).Begins ↔ s.Begins :=
  ⟨fun begins => ⟨begins.new, begins.least⟩, fun begins => ⟨begins.new, begins.least⟩⟩

/-- The stay begins with the last of the reports, or there was one that it continues. -/
theorem cases_of_history (history : s.reports = reports ++ [touch]) :
    (s.later = [] ∧ s.before = reports ∧ ⟨s.contact, .goesDown, s.position⟩ = touch) ∨
      ∃ r : Stay, r.reports = reports ∧ r.extend touch = s := by
  obtain ⟨before, contact, position, identity, later⟩ := s
  induction later using List.reverseRecOn with
  | nil =>
      obtain ⟨same, first⟩ := List.append_inj' history rfl
      exact .inl ⟨rfl, same, List.singleton_inj.mp first⟩
  | append_singleton later last =>
      rw [Stay.reports, ← List.cons_append, ← List.append_assoc] at history
      obtain ⟨same, last_eq⟩ := List.append_inj' history rfl
      cases List.singleton_inj.mp last_eq
      exact .inr ⟨⟨before, contact, position, identity, later⟩, same, rfl⟩

theorem shows_extend_iff : (s.extend touch).Shows (reports ++ [touch]) ↔ s.Lasts reports := by
  have history : (s.extend touch).reports = reports ++ [touch] ↔ s.reports = reports := by
    rw [reports_extend, List.append_left_inj]
  have later : (s.extend touch).later.dropLast = s.later := List.dropLast_concat
  constructor
  · intro shows
    exact ⟨begins_extend.mp shows.toBegins, history.mp shows.history, later ▸ shows.kept⟩
  · intro lasts
    exact ⟨begins_extend.mpr lasts.toBegins, history.mpr lasts.history, later.symm ▸ lasts.kept⟩

/-- Of the stays that a report shows, those last that it does not remove. -/
theorem lasts_concat_iff : s.Lasts (reports ++ [touch]) ↔
    s.Shows (reports ++ [touch]) ∧ touch.removes s.contact = false := by
  constructor
  · intro lasts
    refine ⟨⟨lasts.toBegins, lasts.history, fun t there => ?_⟩, ?_⟩
    · exact lasts.kept t (List.mem_of_mem_dropLast there)
    · rcases cases_of_history lasts.history with ⟨-, -, rfl⟩ | ⟨r, -, rfl⟩
      · rfl
      · exact lasts.kept touch (List.mem_append_right _ (List.mem_singleton_self touch))
  · rintro ⟨shows, stays⟩
    refine ⟨shows.toBegins, shows.history, ?_⟩
    rcases cases_of_history shows.history with ⟨alone, -, -⟩ | ⟨r, -, rfl⟩
    · rw [alone]
      nofun
    · intro t there
      rcases List.mem_append.mp there with before | last
      · exact (shows_extend_iff.mp shows).kept t before
      · cases List.mem_singleton.mp last
        exact stays

section Fill

variable {kind other : Stay → Prop} {row : List (Contact × Sample)}

theorem Fill.congr (fill : Fill kind row) (same : ∀ s, kind s ↔ other s) : Fill other row := by
  obtain ⟨stays, filled, mem, sorted⟩ := fill
  exact ⟨stays, filled, fun s => (mem s).trans (same s), sorted⟩

theorem Fill.filter (fill : Fill kind row) (keeps : Contact → Bool) :
    Fill (fun s => kind s ∧ keeps s.contact = true) (row.filter fun entry => keeps entry.1) := by
  obtain ⟨stays, rfl, mem, sorted⟩ := fill
  refine ⟨stays.filter fun s => keeps s.contact, List.filter_map, fun s => ?_, sorted.filter _⟩
  rw [List.mem_filter, mem]

/-- A report that brings no new contact down shows the contacts that are down, the one that it is about
where it tells. -/
theorem Fill.shown_of_known (fill : Fill (Lasts · reports) (Contacts.after reports).held)
    (brings : touch.stroke = .goesDown → (Contacts.after reports).Ignores touch) :
    Fill (Shows · (reports ++ [touch])) ((Contacts.after reports).shown touch).held := by
  obtain ⟨stays, filled, mem, sorted⟩ := fill
  refine ⟨stays.map (·.extend touch), ?_, fun s => ?_, List.pairwise_map.mpr sorted⟩
  · rw [Contacts.held_shown brings, filled, List.map_map, List.map_map]
    exact List.map_congr_left fun s _ => congrArg (s.contact, ·) (s.sample_extend touch).symm
  · rw [List.mem_map]
    constructor
    · rintro ⟨r, there, rfl⟩
      exact shows_extend_iff.mpr ((mem r).mp there)
    · intro shows
      rcases cases_of_history shows.history with ⟨-, rfl, rfl⟩ | ⟨r, -, rfl⟩
      · obtain ⟨x, held⟩ := brings rfl
        exact absurd held (shows.new x)
      · exact ⟨r, (mem r).mpr (shows_extend_iff.mp shows), rfl⟩

/-- A new contact comes behind those that are down. -/
theorem Fill.shown_of_new (fill : Fill (Lasts · reports) (Contacts.after reports).held)
    {contact : Contact} (new : ∀ x, (contact, x) ∉ (Contacts.after reports).held) (position : Point) :
    Fill (Shows · (reports ++ [⟨contact, .goesDown, position⟩]))
      ((Contacts.after reports).shown ⟨contact, .goesDown, position⟩).held := by
  obtain ⟨stays, filled, mem, sorted⟩ := fill
  obtain ⟨n, free, least⟩ := (Contacts.after reports).exists_leastFree
  let first : Stay := ⟨reports, contact, position, n, []⟩
  have begins : first.Begins := ⟨new, least⟩
  refine ⟨stays.map (·.extend ⟨contact, .goesDown, position⟩) ++ [first], ?_, fun s => ?_, ?_⟩
  · rw [Contacts.shown_of_new new, Contacts.joined, filled, free, List.map_append, List.map_map]
    refine congrArg (· ++ _) (List.map_congr_left fun s _ => ?_)
    exact congrArg (s.contact, ·) (s.sample_extend ⟨contact, .goesDown, position⟩).symm
  · rw [List.mem_append, List.mem_map, List.mem_singleton]
    constructor
    · rintro (⟨r, there, rfl⟩ | rfl)
      · exact shows_extend_iff.mpr ((mem r).mp there)
      · refine ⟨begins, rfl, fun t there => ?_⟩
        cases there
    · intro shows
      rcases cases_of_history shows.history with ⟨alone, before, same⟩ | ⟨r, -, rfl⟩
      · obtain ⟨_, _, _, identity, _⟩ := s
        cases alone
        cases before
        cases same
        cases shows.least.unique least
        exact .inr rfl
      · exact .inl ⟨r, (mem r).mpr (shows_extend_iff.mp shows), rfl⟩
  · refine List.pairwise_append.mpr ⟨List.pairwise_map.mpr sorted, List.pairwise_singleton _ _, ?_⟩
    intro a there b last
    obtain ⟨r, held, rfl⟩ := List.mem_map.mp there
    cases List.mem_singleton.mp last
    have history := congrArg List.length ((mem r).mp held).history
    simp only [Stay.reports, List.length_append, List.length_cons] at history
    simp only [extend, first]
    omega

theorem Fill.shown (fill : Fill (Lasts · reports) (Contacts.after reports).held) (touch : Touch) :
    Fill (Shows · (reports ++ [touch])) ((Contacts.after reports).shown touch).held := by
  by_cases brings : touch.stroke = .goesDown → (Contacts.after reports).Ignores touch
  · exact fill.shown_of_known brings
  · obtain ⟨contact, stroke, position⟩ := touch
    obtain ⟨rfl, heard⟩ := Classical.not_imp.mp brings
    exact fill.shown_of_new (fun x there => heard ⟨x, there⟩) position

theorem fill_after (reports : List Touch) :
    Fill (Lasts · reports) (Contacts.after reports).held := by
  induction reports using List.reverseRecOn with
  | nil =>
      refine ⟨[], rfl, fun s => ⟨nofun, fun lasts => ?_⟩, .nil⟩
      exact absurd lasts.history (List.append_ne_nil_of_right_ne_nil _ (List.cons_ne_nil _ _))
  | append_singleton reports touch ih =>
      -- The report first shows all that are down, and then ends the stays that it removes.
      have left := (ih.shown touch).filter fun contact => !touch.removes contact
      rw [Contacts.after_concat, (Contacts.distinct_after reports).held_hear]
      exact left.congr fun s => by simp [lasts_concat_iff]

end Fill
end Stay

namespace Contacts

/-- A contact that goes up is taken out of the row, and the others stay as they are. -/
theorem Distinct.held_goUp {c : Contacts} (distinct : c.Distinct) (contact : Contact) (position : Point) :
    (c.goUp contact position).2.held = c.held.filter fun entry => entry.1 ≠ contact := by
  have left := distinct.held_hear ⟨contact, .goesUp, position⟩
  have others : (c.place contact position).held.filter (fun entry => entry.1 ≠ contact) =
      c.held.filter fun entry => entry.1 ≠ contact := by
    rw [held_place, List.filter_map]
    have same : (fun entry => decide (entry.1 ≠ contact)) ∘ placed contact position =
        fun entry : Contact × Sample => decide (entry.1 ≠ contact) := by
      funext entry
      simp [placed_fst]
    rw [same]
    refine (List.map_congr_left fun entry there => ?_).trans (List.map_id _)
    have differs : entry.1 ≠ contact := by simpa using (List.mem_filter.mp there).2
    exact placed_other differs position entry.2
  rw [← others]
  refine left.trans (List.filter_congr fun entry _ => ?_)
  simp [Touch.removes, eq_comm]

/-- What the contacts are behind some reports, and what one more report does. -/
structure Identified (reports : List Touch) : Prop where
  contacts : ((after reports).held.map Prod.fst).Nodup
  identities : (after reports).identities.Nodup
  fits : (∀ earlier, earlier <+: reports → (after earlier).held.length < 0x80000000) →
    ∀ id ∈ (after reports).identities, 0 ≤ id ∧ id < 0x80000000
  held : Stay.Fill (Stay.Lasts · reports) (after reports).held
  batch : ∀ touch batch, ((after reports).hear touch).1 = some batch →
    ∃ row : List (Contact × Sample), batch.samples = row.map Prod.snd ∧
      Stay.Fill (Stay.Shows · (reports ++ [touch])) row ∧
      (row.map Prod.fst).Nodup ∧ (batch.samples.map Sample.id).Nodup
  down : ∀ contact position, (∀ s, (contact, s) ∉ (after reports).held) →
    ∃ n : Nat, (after reports).LeastFree n ∧ n ≤ (after reports).held.length ∧
      ((after reports).goDown contact position).2.held =
        (after reports).held ++ [(contact, ⟨n, position⟩)]
  up : ∀ contact position, ((after reports).goUp contact position).2.held =
    (after reports).held.filter fun entry => entry.1 ≠ contact
  cancel : (after reports).cancel.2.held = []
  ignored : ∀ touch, (after reports).Ignores touch →
    (after reports).hear touch = (none, after reports)
  heard : ∀ touch, ¬ (after reports).Ignores touch → ∃ batch, ((after reports).hear touch).1 = some batch

theorem Distinct.shown {c : Contacts} (distinct : c.Distinct) (touch : Touch) :
    (c.shown touch).Distinct := by
  by_cases ignored : c.Ignores touch
  · rw [shown_of_ignores ignored]
    exact distinct
  · obtain ⟨contact, stroke, position⟩ := touch
    cases stroke with
    | goesDown =>
        have new : ∀ s, (contact, s) ∉ c.held := fun s there => ignored ⟨s, there⟩
        rw [shown_of_new new]
        exact distinct.joined new position
    | moves | goesUp => exact distinct.place contact position
    | isCancelled => exact distinct

theorem samples_of_hear {batch : Motion} (made : ((after reports).hear touch).1 = some batch) :
    batch.samples = ((after reports).shown touch).held.map Prod.snd := by
  have heard : ¬ (after reports).Ignores touch := by
    intro ignored
    rw [hear_of_ignores ignored] at made
    cases made
  obtain ⟨code, become⟩ := (distinct_after reports).hear_eq heard
  rw [become] at made
  cases made
  rfl

/-- An identity is at most the number of the contacts that were down when its stay began. -/
theorem exists_earlier_of_identity {id : Int} (there : id ∈ (after reports).identities) :
    ∃ (n : Nat) (earlier : List Touch), earlier <+: reports ∧ id = n ∧ n ≤ (after earlier).held.length := by
  obtain ⟨stays, filled, mem, -⟩ := Stay.fill_after reports
  rw [identities_eq, filled, List.map_map] at there
  obtain ⟨s, among, rfl⟩ := List.mem_map.mp there
  have lasts := (mem s).mp among
  exact ⟨s.identity, s.before, ⟨_, lasts.history⟩, rfl, le_length_of_taken lasts.least.taken⟩

/-- Behind any reports, contacts and identities are told apart, and each stay keeps its own to its end. -/
theorem run_identifies (reports : List Touch) : Identified reports where
  contacts := (distinct_after reports).contacts
  identities := (distinct_after reports).identities
  fits few id there := by
    obtain ⟨n, earlier, begun, rfl, low⟩ := exists_earlier_of_identity there
    exact ⟨Int.natCast_nonneg n, Int.ofNat_lt.mpr (low.trans_lt (few earlier begun))⟩
  held := Stay.fill_after reports
  batch touch batch made := by
    have distinct := (distinct_after reports).shown touch
    have row := samples_of_hear made
    exact ⟨_, row, (Stay.fill_after reports).shown touch, distinct.contacts, row ▸ distinct.identities⟩
  down contact position new := by
    obtain ⟨n, same, least⟩ := (after reports).exists_leastFree
    refine ⟨n, least, le_length_of_taken least.taken, ?_⟩
    rw [goDown_of_new new, joined, same]
  up := (distinct_after reports).held_goUp
  cancel := held_cancel _
  ignored touch ignored := hear_of_ignores ignored
  heard touch heeded := by
    obtain ⟨code, become⟩ := (distinct_after reports).hear_eq heeded
    exact ⟨_, congrArg Prod.fst become⟩

/-- A finger goes up beside the mouse, and the next one gets its identity behind the mouse. -/
example :
    let here : Point := ⟨⟨0⟩, ⟨0⟩⟩
    let reports : List Touch :=
      [⟨.finger 7, .goesDown, here⟩, ⟨.mouse, .goesDown, here⟩, ⟨.finger 7, .goesUp, here⟩]
    ((after reports).hear ⟨.finger 8, .goesDown, here⟩).1.map Motion.samples =
      some [⟨1, here⟩, ⟨0, here⟩] := by
  decide

end Contacts
end SurfaceGate.Desktop
