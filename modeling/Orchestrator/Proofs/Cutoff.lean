import Orchestrator.Proofs.Trace

namespace Orchestrator

/-!
# Cut-offs — what a log holds after an operation that failed

An operation logs one text or a few, each on the console and then in the transcript, and either
outlet may fail at any byte of any of them. Whatever happens, the transcript holds nothing that the
console does not hold, and neither holds anything but a beginning of what was to be logged.

* `Entry.texts` — the texts that an entry consists of.
* `Sink.enter_eq_logAll` — to log an entry is to log these one after another.
* `CutOff` — the ways in which logging some texts ends.
* `Bench.enter_cuts_off_in_order` — every operation ends in one of these ways.
-/

/-! ### Entries as texts -/

/-- The texts that an entry consists of; `headed` tells whether a heading was logged before. -/
def Entry.texts (headed : Bool) : Entry → List String
  | .text words => [words]
  | .heading title => (if headed then ["\n"] else []) ++ [Banner.separator.line title]
  | .announcement command => [Banner.run.line command]
  | .result code command errorText =>
    if code = 0 then [Banner.ok.line command]
    else [Banner.separator.line "", Banner.stderr.line "", errorText, Banner.failed.line command,
      Sink.codeLine code]

/-- The entry is the heading of a section. -/
def Entry.isHeading : Entry → Bool
  | .heading _ => true
  | _ => false

namespace Sink

variable {σ : Type} (sink : Sink σ)

/-- Log texts one after another. -/
def logAll : List String → Logged σ Unit
  | [] => pure ()
  | text :: rest => do
    sink.log text
    logAll rest

/-- Logging some texts is logging the first and then the others. -/
theorem logAll_cons (text : String) (rest : List String) :
    sink.logAll (text :: rest) = (do sink.log text; sink.logAll rest) := rfl

/-- A sink that logs one text and nothing behind it just logs it. -/
theorem logAll_singleton (text : String) : sink.logAll [text] = sink.log text := by
  funext s
  rw [logAll_cons, logAll, Action.bind_apply]
  rcases sink.log text s with ⟨_ | ⟨⟩, _⟩ <;> rfl

/-- To log an entry is to log its texts. A heading is noted first, and stays noted if it fails. -/
theorem enter_eq_logAll (entry : Entry) (s : Session σ) :
    sink.enter entry s =
      sink.logAll (entry.texts s.headed) ⟨s.world, s.headed || entry.isHeading⟩ := by
  obtain ⟨w, headed⟩ := s
  cases entry with
  | text =>
    rw [Entry.texts, logAll_singleton]
    simp [enter, Entry.isHeading]
  | announcement command =>
    rw [Entry.texts, logAll_singleton]
    simp [enter, announce, Entry.isHeading]
  | heading title =>
    cases headed with
    | false =>
      rw [Entry.texts, if_neg Bool.false_ne_true, List.nil_append, logAll_singleton]
      rfl
    | true =>
      rw [Entry.texts, if_pos rfl, List.singleton_append, logAll_cons, logAll_singleton]
      rfl
  | result code command errorText =>
    rw [enter, result, Entry.texts]
    simp only [Entry.isHeading, Bool.or_false]
    split
    · rw [logAll_singleton]
    · rw [logAll_cons, logAll_cons, logAll_cons, logAll_cons, logAll_singleton]

end Sink

/-! ### Where logging breaks off -/

/-- `CutOff texts out shown written`: logging the texts ends with `out`; by then the console has
taken the bytes `shown`, and the transcript the bytes `written`. -/
inductive CutOff (texts : List String) : Except Fault Unit → Bytes → Bytes → Prop where
  /-- Nothing failed, and both have taken all. -/
  | nowhere : CutOff texts (.ok ()) (texts.flatMap Text.encode) (texts.flatMap Text.encode)
  /-- The console failed at a text, and the transcript was not given it. -/
  | console {earlier text later part cause} (split : texts = earlier ++ text :: later)
      (short : part <+: Text.encode text) :
      CutOff texts (.error (.console cause)) (earlier.flatMap Text.encode ++ part)
        (earlier.flatMap Text.encode)
  /-- The transcript failed at a text that the console has taken. -/
  | transcript {earlier text later part cause} (split : texts = earlier ++ text :: later)
      (short : part <+: Text.encode text) :
      CutOff texts (.error (.transcript cause)) ((earlier ++ [text]).flatMap Text.encode)
        (earlier.flatMap Text.encode ++ part)

namespace CutOff

variable {text : String} {texts : List String} {out : Except Fault Unit} {shown written : Bytes}

/-- A text that both have taken comes before all else. -/
theorem cons (h : CutOff texts out shown written) :
    CutOff (text :: texts) out (Text.encode text ++ shown) (Text.encode text ++ written) := by
  cases h with
  | nowhere => exact .nowhere
  | @console earlier failing later part cause split short =>
    have longer : text :: texts = (text :: earlier) ++ failing :: later := by rw [split]; rfl
    have cut : CutOff (text :: texts) (.error (.console cause)) _ _ := .console longer short
    rwa [List.flatMap_cons, List.append_assoc] at cut
  | @transcript earlier failing later part cause split short =>
    have longer : text :: texts = (text :: earlier) ++ failing :: later := by rw [split]; rfl
    have cut : CutOff (text :: texts) (.error (.transcript cause)) _ _ := .transcript longer short
    rwa [List.cons_append, List.flatMap_cons, List.flatMap_cons, List.append_assoc] at cut

/-- What is logged behind a text that failed is not begun. -/
theorem append {fault : Fault} (h : CutOff texts (.error fault) shown written)
    (behind : List String) : CutOff (texts ++ behind) (.error fault) shown written := by
  cases h with
  | console split short => exact .console (by rw [split, List.append_assoc, List.cons_append]) short
  | transcript split short =>
    exact .transcript (by rw [split, List.append_assoc, List.cons_append]) short

/-- The transcript holds nothing that the console does not hold. -/
theorem written_prefix (h : CutOff texts out shown written) : written <+: shown := by
  cases h with
  | nowhere => exact List.prefix_rfl
  | console split short => exact List.prefix_append _ _
  | transcript split short =>
    rw [List.flatMap_append, List.flatMap_singleton]
    exact (List.prefix_append_right_inj _).2 short

/-- The console holds nothing but a beginning of what was to be logged. -/
theorem shown_prefix (h : CutOff texts out shown written) :
    shown <+: texts.flatMap Text.encode := by
  cases h with
  | nowhere => exact List.prefix_rfl
  | console split short =>
    rw [split, List.flatMap_append, List.flatMap_cons]
    exact (List.prefix_append_right_inj _).2 (short.trans (List.prefix_append _ _))
  | @transcript earlier failing later part cause split short =>
    -- the console got the failing text whole; what is left are those behind it
    have front : texts.flatMap Text.encode
        = (earlier ++ [failing]).flatMap Text.encode ++ later.flatMap Text.encode := by
      rw [split, List.append_cons]
      exact List.flatMap_append
    exact front ▸ List.prefix_append _ _

end CutOff

namespace Bench

variable {π γ τ ρ : Type} {console : Outlet γ} {transcript : Outlet τ}

/-- Between two worlds the devices have taken these bytes, and all else is as it was. -/
structure Took (w : World π (Bench γ τ ρ)) (shown written : Bytes) (w' : World π (Bench γ τ ρ)) :
    Prop where
  console : w'.gear.console.taken.toList = w.gear.console.taken.toList ++ shown
  transcript : w'.gear.transcript.taken.toList = w.gear.transcript.taken.toList ++ written
  rest : (w'.files, w'.gear.calls, w'.gear.runner) = (w.files, w.gear.calls, w.gear.runner)

theorem Took.refl (w : World π (Bench γ τ ρ)) : Took w [] [] w :=
  ⟨(List.append_nil _).symm, (List.append_nil _).symm, rfl⟩

/-- What was taken in one step stands before what is taken in the next. -/
theorem Took.trans {w w' w'' : World π (Bench γ τ ρ)} {shown written shown' written' : Bytes}
    (h : Took w shown written w') (h' : Took w' shown' written' w'') :
    Took w (shown ++ shown') (written ++ written') w'' where
  console := by rw [h'.console, h.console, List.append_assoc]
  transcript := by rw [h'.transcript, h.transcript, List.append_assoc]
  rest := h'.rest.trans h.rest

/-- A text that the transcript does not take is on the console. -/
theorem log_of_not_written {text : String} {w : World π (Bench γ τ ρ)} {c : Channel γ}
    {t : Channel τ} {cause : Cause} (shown : console.kept.emit text w.gear.console = (.ok (), c))
    (written : transcript.kept.emit text w.gear.transcript = (.error cause, t)) (headed : Bool) :
    (sink console transcript).log text ⟨w, headed⟩
      = (.error (.transcript cause),
        ⟨⟨w.files, { w.gear with console := c, transcript := t }⟩, headed⟩) := by
  simp only [Sink.log_apply, sink, consoleOutlet_emit, transcriptOutlet_emit, shown, written]

/-- A text is cut off at one of its bytes, on the console or in the transcript. -/
theorem cutOff_log (console : Outlet γ) (transcript : Outlet τ) (text : String)
    (s : Session (World π (Bench γ τ ρ))) :
    let done := (sink console transcript).log text s
    ∃ shown written, Took s.world shown written done.2.world ∧
      CutOff [text] done.1 shown written := by
  obtain ⟨w, headed⟩ := s
  obtain ⟨shown, given, short, whole⟩ := console.exists_taken_emit text w.gear.console
  obtain ⟨written, given', short', whole'⟩ :=
    transcript.exists_taken_emit text w.gear.transcript
  rcases first : console.kept.emit text w.gear.console with ⟨cause | ⟨⟩, c⟩
  · -- the console failed, and the transcript was not asked
    rw [log_of_not_shown first]
    rw [first] at given
    have only : [text] = [] ++ text :: [] := rfl
    exact ⟨shown, [], ⟨given, (List.append_nil _).symm, rfl⟩, .console only short⟩
  · rw [first] at given whole
    obtain rfl := whole rfl
    rcases second : transcript.kept.emit text w.gear.transcript with ⟨cause | ⟨⟩, t⟩
    · rw [log_of_not_written first second]
      rw [second] at given'
      have only : [text] = [] ++ text :: [] := rfl
      have cut : CutOff [text] (.error (.transcript cause)) _ _ := .transcript only short'
      exact ⟨_, written, ⟨given, given', rfl⟩, by simpa using cut⟩
    · rw [log_of_emits first second]
      rw [second] at given' whole'
      obtain rfl := whole' rfl
      have cut : CutOff [text] (.ok ()) _ _ := .nowhere
      exact ⟨_, _, ⟨given, given', rfl⟩, by simpa using cut⟩

/-- Texts that are logged one after another are cut off at one of them. -/
theorem cutOff_logAll (console : Outlet γ) (transcript : Outlet τ) (texts : List String)
    (s : Session (World π (Bench γ τ ρ))) :
    let done := (sink console transcript).logAll texts s
    ∃ shown written, Took s.world shown written done.2.world ∧
      CutOff texts done.1 shown written := by
  induction texts generalizing s with
  | nil => exact ⟨[], [], .refl s.world, .nowhere⟩
  | cons text rest ih =>
    obtain ⟨shown, written, took, cut⟩ := cutOff_log console transcript text s
    rw [Sink.logAll_cons, Action.bind_apply]
    rcases first : (sink console transcript).log text s with ⟨fault | ⟨⟩, after⟩
    · rw [first] at took cut
      exact ⟨shown, written, took, cut.append rest⟩
    · rw [first] at took cut
      obtain ⟨shown', written', took', cut'⟩ := ih after
      refine ⟨_, _, took.trans took', ?_⟩
      cases cut with
      | nowhere => simpa using cut'.cons

/-- **An operation of a log fails in the order of its text.** Whatever the two outlets do, and
whatever was logged on them before, an operation adds to the transcript a beginning of what it adds
to the console, and to the console a beginning of the text that it has to log. If nothing fails,
both have taken the whole text. If the console fails, then at one of the texts that the operation
consists of, and the transcript has taken just those before it. If the transcript fails, then at
one of them that the console has taken whole, and nothing behind it was shown. -/
theorem enter_cuts_off_in_order (console : Outlet γ) (transcript : Outlet τ) (entry : Entry)
    (s : Session (World π (Bench γ τ ρ))) :
    let texts := entry.texts s.headed
    let done := (sink console transcript).enter entry s
    ∃ shown written, Took s.world shown written done.2.world ∧
      written <+: shown ∧ shown <+: texts.flatMap Text.encode ∧
      match done.1 with
      | .ok () => shown = texts.flatMap Text.encode ∧ written = texts.flatMap Text.encode
      | .error (.console _) => ∃ earlier text later, texts = earlier ++ text :: later ∧
        written = earlier.flatMap Text.encode ∧
        shown <+: (earlier ++ [text]).flatMap Text.encode
      | .error (.transcript _) => ∃ earlier text later, texts = earlier ++ text :: later ∧
        shown = (earlier ++ [text]).flatMap Text.encode ∧
        earlier.flatMap Text.encode <+: written
      | .error _ => False := by
  intro texts done
  obtain ⟨shown, written, took, cut⟩ := cutOff_logAll console transcript texts
    ⟨s.world, s.headed || entry.isHeading⟩
  rw [← Sink.enter_eq_logAll] at took cut
  refine ⟨shown, written, took, cut.written_prefix, cut.shown_prefix, ?_⟩
  change CutOff texts done.1 shown written at cut
  clear_value done
  obtain ⟨out, after⟩ := done
  cases cut with
  | nowhere => exact ⟨rfl, rfl⟩
  | @console earlier text later part cause split short =>
    refine ⟨earlier, text, later, split, rfl, ?_⟩
    rw [List.flatMap_append, List.flatMap_singleton]
    exact (List.prefix_append_right_inj _).2 short
  | @transcript earlier text later part cause split short =>
    exact ⟨earlier, text, later, split, rfl, List.prefix_append _ _⟩

end Bench

end Orchestrator
