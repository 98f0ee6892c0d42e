import GridRobot.Proofs.Redrawing
import GridRobot.Proofs.Sessions

namespace GridRobot

def Showing.text? : Showing → Option String
  | .text printed => some printed
  | .pause _ => none

def Showing.pause? : Showing → Option Nat
  | .text _ => none
  | .pause milliseconds => some milliseconds

theorem Showing.texts_text (printed : List String) : (printed.map text).filterMap text? = printed := by
  rw [List.filterMap_map]
  exact List.filterMap_some

theorem Showing.pauses_text (printed : List String) : (printed.map text).filterMap pause? = [] := by
  rw [List.filterMap_map]
  exact List.filterMap_eq_nil_iff.mpr fun _ _ => rfl

/-- The console has got to see more, in this order. -/
structure Workspace.Shows (workspace : Workspace) (added : List Showing) (reached : Workspace) : Prop where
  shown : reached.shown = added.reverse ++ workspace.shown
  directory : reached.directory = workspace.directory
  longestPause : reached.longestPause = workspace.longestPause

namespace Workspace.Shows

variable {workspace reached last : Workspace} {first second added : List Showing}

theorem refl (workspace : Workspace) : workspace.Shows [] workspace :=
  ⟨rfl, rfl, rfl⟩

theorem trans (before : workspace.Shows first reached) (after : reached.Shows second last) :
    workspace.Shows (first ++ second) last := by
  refine ⟨?_, after.directory.trans before.directory, after.longestPause.trans before.longestPause⟩
  rw [after.shown, before.shown, List.reverse_append, List.append_assoc]

/-- All that was printed stays, and what is printed then comes behind it. -/
theorem output (shows : workspace.Shows added reached) :
    reached.output = workspace.output ++ String.join (added.filterMap Showing.text?) := by
  have whole : reached.output = String.join (reached.shown.reverse.filterMap Showing.text?) := rfl
  rw [whole, shows.shown, List.reverse_append, List.reverse_reverse, List.filterMap_append, String.join_append]
  rfl

theorem pauses (shows : workspace.Shows added reached) :
    reached.pauses = workspace.pauses ++ added.filterMap Showing.pause? := by
  have whole : reached.pauses = reached.shown.reverse.filterMap Showing.pause? := rfl
  rw [whole, shows.shown, List.reverse_append, List.reverse_reverse, List.filterMap_append]
  rfl

theorem allows {delay : Nat} (shows : workspace.Shows added reached) (allows : workspace.Allows delay) :
    reached.Allows delay :=
  ⟨allows.finite, fun longest same => allows.bounded longest (shows.longestPause.symm.trans same)⟩

end Workspace.Shows

/-- A frame of the board on a screen that is cleared first. -/
def Map.frame (world : World) : String :=
  clearScreen ++ Map.draw world ++ "\n"

/-- What the console gets to see of a world: a pause, if there shall be one, and then the frame. -/
def World.showing (delay : Nat) (world : World) : List Showing :=
  Showing.rest delay ++ [.text (Map.frame world)]

/-- What the console gets to see of a frame that is torn: the screen is cleared, and nothing more. -/
def Showing.torn (delay : Nat) : List Showing :=
  Showing.rest delay ++ [.text clearScreen]

theorem Showing.reverse_rest (delay : Nat) : (rest delay).reverse = rest delay := by
  rw [rest]
  split <;> rfl

namespace Display

variable {delay frames : Nat} {workspace : Workspace}

/-- A display that clears the screen shows a frame if its pause can be made. -/
theorem shows_draw (allows : workspace.Allows delay) (frames : Nat) (world : World) :
    workspace.Shows (world.showing delay) (draw ⟨delay, true, frames⟩ world workspace).state.2 := by
  rw [@draw_of_allows ⟨delay, true, frames⟩ workspace allows]
  refine ⟨?_, rfl, rfl⟩
  rw [World.showing, List.reverse_append, Showing.reverse_rest]
  rfl

/-- A display that lacks the nesting for a frame clears the screen at most. -/
theorem shows_interrupt (allows : workspace.Allows delay) (left frames : Nat) :
    workspace.Shows [] (interrupt left ⟨delay, true, frames⟩ workspace).state.2 ∨
      workspace.Shows (Showing.torn delay) (interrupt left ⟨delay, true, frames⟩ workspace).state.2 := by
  rw [@interrupt_of_allows ⟨delay, true, frames⟩ workspace allows]
  simp only
  split
  · exact Or.inl (.refl workspace)
  · refine Or.inr ⟨?_, rfl, rfl⟩
    rw [Showing.torn, List.reverse_append, Showing.reverse_rest]
    rfl

/-- A pause that was made can be made. -/
theorem allows_of_rest {display : Display} {rested : Workspace} (made : display.rest workspace = .ok rested) :
    workspace.Allows display.delay := by
  rw [rest] at made
  split at made
  · rename_i still
    rw [still]
    exact ⟨by decide, fun longest _ => Nat.zero_le longest⟩
  · rw [Workspace.sleep] at made
    split at made
    · cases made
    · rename_i finite
      split at made
      · cases made
      · rename_i short
        refine ⟨Bool.eq_false_iff.mpr finite, fun longest same => ?_⟩
        rw [same] at short
        simpa using short

theorem allows_of_draw {display : Display} {world : World} (drawn : (display.draw world workspace).failure = none) :
    workspace.Allows display.delay := by
  rw [draw] at drawn
  split at drawn
  · cases drawn
  · rename_i made
    exact allows_of_rest made

/-- The console gets to see the pause that a display makes. -/
theorem shows_rest {display : Display} {rested : Workspace} (made : display.rest workspace = .ok rested) :
    workspace.Shows (Showing.rest display.delay) rested := by
  have shown := rest_of_allows (allows_of_rest made)
  rw [made] at shown
  cases shown
  exact ⟨by rw [Showing.reverse_rest], rfl, rfl⟩

end Display

/-- A recorder has these rows in its groups and its buffer, and is still to write them. -/
structure Recorder.Notes (recorder : Recorder) (runId : WideString) (rows : List TraceRow) : Prop where
  runId : recorder.runId = runId
  unclosed : recorder.closed = false
  recorded : recorder.groups.flatten ++ recorder.buffer.reverse = rows

namespace Recorder

variable {recorder : Recorder} {files : FileTree} {directory : List String} {runId : WideString} {action : String}
  {rows : List TraceRow} {world : World}

/-- A flush that fails leaves the recorder as it is, and one that does not leaves it with its rows written. -/
theorem state_flush (recorder : Recorder) (files : FileTree) (directory : List String) :
    ((recorder.flush files directory).state.1 = recorder ∧
        ((recorder.flush files directory).failure = none → recorder.buffer = [])) ∨
      (recorder.flush files directory).state.1 = recorder.flushed := by
  rw [flush]
  split
  · rename_i empty
    exact Or.inl ⟨rfl, fun _ => List.isEmpty_iff.mp empty⟩
  · simp only
    split
    · exact Or.inl ⟨rfl, fun kept => absurd kept (Option.some_ne_none _)⟩
    · split
      · split
        · exact Or.inl ⟨rfl, fun kept => absurd kept (Option.some_ne_none _)⟩
        · exact Or.inr rfl
      · exact Or.inr rfl

/-- A flush moves the rows of the buffer behind those of the groups and changes nothing else. -/
theorem flush_keeps (recorder : Recorder) (files : FileTree) (directory : List String) :
    let flushed := (recorder.flush files directory).state.1
    flushed.path = recorder.path ∧ flushed.runId = recorder.runId ∧ flushed.closed = recorder.closed ∧
      flushed.groups.flatten ++ flushed.buffer.reverse = recorder.groups.flatten ++ recorder.buffer.reverse := by
  rcases recorder.state_flush files directory with ⟨same, _⟩ | same
  · dsimp only
    rw [same]
    exact ⟨rfl, rfl, rfl, rfl⟩
  · dsimp only
    rw [same]
    refine ⟨rfl, rfl, rfl, ?_⟩
    rw [recorder.rows_flushed]
    exact List.append_nil _

/-- A flush that does not fail leaves the buffer empty. -/
theorem buffer_flush (flushed : (recorder.flush files directory).failure = none) :
    (recorder.flush files directory).state.1.buffer = [] := by
  rcases recorder.state_flush files directory with ⟨same, empty⟩ | same
  · rw [same, empty flushed]
  · rw [same]
    rfl

/-- A recorder that adds a row notes it. -/
theorem Notes.add (notes : recorder.Notes runId rows) (action : WideString) (world : World) :
    (recorder.add action world).Notes runId (rows ++ [TraceRow.ofWorld runId action world]) := by
  obtain ⟨rfl, unclosed, rfl⟩ := notes
  refine ⟨rfl, unclosed, ?_⟩
  rw [Recorder.add, List.reverse_cons, List.append_assoc]

/-- A recorder that is told of an action notes one row more. -/
theorem Notes.record (notes : recorder.Notes runId rows) (files : FileTree) (directory : List String)
    (action : WideString) (world : World) :
    (recorder.record files directory action world).state.1.path = recorder.path ∧
      (recorder.record files directory action world).state.1.Notes runId
        (rows ++ [TraceRow.ofWorld runId action world]) := by
  have added := notes.add action world
  rw [Recorder.record]
  split
  · obtain ⟨path, runId, closed, recorded⟩ := (recorder.add action world).flush_keeps files directory
    exact ⟨path, runId.trans added.runId, closed.trans added.unclosed, recorded.trans added.recorded⟩
  · exact ⟨rfl, added⟩

/-- A recorder that can be closed leaves a trace of the rows that it has noted. -/
theorem Notes.close (notes : recorder.Notes runId rows)
    (closed : (recorder.close files directory).failure = none) :
    ∃ trace, Trace.rows trace = rows ∧
      (recorder.close files directory).state.2.read directory recorder.path = .ok (.trace trace) := by
  obtain ⟨-, unclosed, rfl⟩ := notes
  obtain ⟨path, -, -, recorded⟩ := flush_keeps { recorder with closed := true } files directory
  have emptied := @buffer_flush { recorder with closed := true } files directory
  simp only [Recorder.close, unclosed, Bool.false_eq_true, if_false] at closed ⊢
  generalize ({ recorder with closed := true } : Recorder).flush files directory = attempt at *
  obtain ⟨⟨flushed, opened⟩, _ | failure⟩ := attempt
  -- The flush has succeeded, so all rows are in the groups when the trace is written.
  · have emptied : flushed.buffer = [] := emptied rfl
    have path : flushed.path = recorder.path := path
    have recorded : flushed.groups.flatten ++ flushed.buffer.reverse =
      recorder.groups.flatten ++ recorder.buffer.reverse := recorded
    rw [emptied, List.reverse_nil, List.append_nil] at recorded
    have kept : (if flushed.groups.isEmpty then [[]] else flushed.groups).flatten = flushed.groups.flatten := by
      split
      · rename_i empty
        rw [List.isEmpty_iff.mp empty]
        rfl
      · rfl
    simp only [path] at closed ⊢
    cases written : opened.write directory recorder.path
        (.trace (if flushed.groups.isEmpty then [[]] else flushed.groups)) with
    | error error =>
        rw [written] at closed
        cases closed
    | ok completed => exact ⟨_, kept.trans recorded, FileTree.read_of_write written⟩
  · cases closed

end Recorder

namespace Session

/-- A display that draws shows a frame. -/
theorem shows_of_draw {delay frames : Nat} {world : World} {workspace reached : Workspace} {display : Display}
    (drawn : draw ⟨delay, true, frames⟩ world workspace = .ok display reached) :
    workspace.Allows delay ∧ display = ⟨delay, true, frames + 1⟩ ∧ workspace.Shows (world.showing delay) reached ∧
      reached.files = workspace.files := by
  cases failed : (Display.draw ⟨delay, true, frames⟩ world workspace).failure with
  | some failure =>
      rw [draw, Job.get_bind, Job.set_bind, failed] at drawn
      cases drawn
  | none =>
      have allows : workspace.Allows delay := Display.allows_of_draw failed
      have shows := Display.shows_draw allows frames world
      rw [@draw_of_allows workspace ⟨delay, true, frames⟩ allows] at drawn
      rw [@Display.draw_of_allows ⟨delay, true, frames⟩ workspace allows] at shows
      cases drawn
      exact ⟨allows, rfl, shows, rfl⟩

/-- A display shows a run, and a recorder has noted rows if there shall be a trace. -/
inductive Audience (settings : Settings) (rows : List TraceRow) : List Observer → Prop where
  | alone {frames : Nat} (untraced : settings.trace = none) :
      Audience settings rows [.display ⟨settings.delay.toNat, true, frames⟩]
  | together {frames : Nat} {recorder : Recorder} (traced : settings.trace = some recorder.path)
      (notes : recorder.Notes settings.runId rows) :
      Audience settings rows [.display ⟨settings.delay.toNat, true, frames⟩, .recorder recorder]

namespace Audience

variable {settings : Settings} {rows : List TraceRow} {observers : List Observer} {workspace reached : Workspace}

/-- Every action is shown in one frame and noted in one row, unless there is not enough nesting for the frame. -/
theorem notifyAll (audience : Audience settings rows observers) (allows : workspace.Allows settings.delay.toNat)
    (left : Nat) (action : Action) (world : World) :
    Audience settings (rows ++ [TraceRow.ofWorld settings.runId action.name world])
        (Listener.notifyAll left action world observers workspace).state.1 ∧
      workspace.Shows (world.showing settings.delay.toNat)
        (Listener.notifyAll left action world observers workspace).state.2 ∨
    left < Nesting.frameCost ∧
      (Listener.notifyAll left action world observers workspace).failure = some .nestingTooDeep ∧
      Audience settings rows (Listener.notifyAll left action world observers workspace).state.1 ∧
      (workspace.Shows [] (Listener.notifyAll left action world observers workspace).state.2 ∨
        workspace.Shows (Showing.torn settings.delay.toNat)
          (Listener.notifyAll left action world observers workspace).state.2) := by
  by_cases crowded : left < Nesting.frameCost
  · -- The display comes first, so nobody else is told.
    have broken (frames : Nat) (others : List Observer) :
        Listener.notifyAll left action world (.display ⟨settings.delay.toNat, true, frames⟩ :: others) workspace =
          { state := (.display ⟨settings.delay.toNat, true, frames⟩ :: others,
              (Display.interrupt left ⟨settings.delay.toNat, true, frames⟩ workspace).state.2)
            failure := some .nestingTooDeep } := by
      simp only [Listener.notifyAll, Listener.notify, crowded, if_true,
        @Display.interrupt_of_allows ⟨settings.delay.toNat, true, frames⟩ workspace allows]
    refine Or.inr ⟨crowded, ?_⟩
    cases audience with
    | @alone frames untraced =>
        rw [broken]
        exact ⟨rfl, .alone untraced, Display.shows_interrupt allows left frames⟩
    | @together frames recorder traced notes =>
        rw [broken]
        exact ⟨rfl, .together traced notes, Display.shows_interrupt allows left frames⟩
  · let drawn (frames : Nat) : Workspace := (Display.draw ⟨settings.delay.toNat, true, frames⟩ world workspace).state.2
    have told (frames : Nat) (others : List Observer) :
        Listener.notifyAll left action world (.display ⟨settings.delay.toNat, true, frames⟩ :: others) workspace =
          { state := (.display ⟨settings.delay.toNat, true, frames + 1⟩ ::
                (Listener.notifyAll left action world others (drawn frames)).state.1,
              (Listener.notifyAll left action world others (drawn frames)).state.2)
            failure := (Listener.notifyAll left action world others (drawn frames)).failure } := by
      simp only [Listener.notifyAll, Listener.notify, crowded, if_false, drawn,
        @Display.draw_of_allows ⟨settings.delay.toNat, true, frames⟩ workspace allows]
    refine Or.inl ?_
    cases audience with
    | @alone frames untraced =>
        rw [told]
        exact ⟨.alone untraced, Display.shows_draw allows frames world⟩
    | @together frames recorder traced notes =>
        have shows := Display.shows_draw allows frames world
        rw [told, Ledger.notifyAll_recorder]
        simp only [Listener.notify]
        split
        · obtain ⟨path, notes⟩ := notes.record (drawn frames).files (drawn frames).directory action.name world
          rw [← path] at traced
          exact ⟨.together traced notes, shows.shown, shows.directory, shows.longestPause⟩
        · refine ⟨.together ?_ ?_, shows.shown, shows.directory, shows.longestPause⟩
          · rw [Recorder.interrupt]
            split <;> exact traced
          · rename_i room
            have wide : ¬ left < Nesting.rowCost := fun tight => crowded (Nat.lt_trans tight (by decide))
            rw [Recorder.interrupt, if_neg wide]
            exact notes.add action.name world

/-- A history is shown frame by frame and noted row by row. -/
theorem tells (audience : Audience settings rows observers) (allows : workspace.Allows settings.delay.toNat)
    {history : List (Action × World)} {told : List Observer} (tells : Tells history observers workspace told reached) :
    Audience settings (rows ++ history.map fun entry => TraceRow.ofWorld settings.runId entry.1.name entry.2) told ∧
      workspace.Shows (history.flatMap fun entry => entry.2.showing settings.delay.toNat) reached := by
  induction tells generalizing rows with
  | nil =>
      rw [List.map_nil, List.append_nil]
      exact ⟨audience, .refl _⟩
  | @cons left action world later observers told heard workspace middle reached first after inductionHypothesis =>
      rcases audience.notifyAll allows left action world with ⟨audience, shows⟩ | ⟨_, failed, _⟩
      · rw [first] at audience shows
        obtain ⟨audience, after⟩ := inductionHypothesis audience (shows.allows allows)
        rw [List.append_assoc] at audience
        exact ⟨audience, shows.trans after⟩
      · rw [first] at failed
        cases failed

/-- The end is one frame more, and all files are left as they are. -/
theorem showEnd (audience : Audience settings rows observers) {world : World}
    (shown : Session.showEnd world observers workspace = .ok () reached) :
    workspace.Shows (world.showing settings.delay.toNat) reached ∧ reached.files = workspace.files := by
  cases audience with
  | alone untraced =>
      obtain ⟨_, _, drawn, ended⟩ := Job.bind_eq_ok.mp shown
      cases ended
      obtain ⟨_, _, drawn, same⟩ := Job.bind_eq_ok.mp drawn
      cases same
      exact (shows_of_draw drawn).2.2
  | together traced notes =>
      obtain ⟨_, _, drawn, ended⟩ := Job.bind_eq_ok.mp shown
      cases ended
      obtain ⟨_, _, drawn, same⟩ := Job.bind_eq_ok.mp drawn
      cases same
      exact (shows_of_draw drawn).2.2

/-- Closing shows nothing, and leaves what was noted in the file of the trace. -/
theorem closeRecorders (audience : Audience settings rows observers)
    (closed : Session.closeRecorders observers workspace = .ok () reached) :
    workspace.Shows [] reached ∧ ∀ path, settings.trace = some path →
      ∃ trace, Trace.rows trace = rows ∧ reached.files.read workspace.directory path = .ok (.trace trace) := by
  cases audience with
  | alone untraced =>
      cases closed
      refine ⟨.refl workspace, fun path traced => ?_⟩
      cases untraced.symm.trans traced
  | @together frames recorder traced notes =>
      rw [Session.closeRecorders, Session.closeRecorders, Job.get_bind, Job.set_bind] at closed
      cases ended : (recorder.close workspace.files workspace.directory).failure with
      | some failure =>
          rw [ended] at closed
          cases closed
      | none =>
          rw [ended] at closed
          cases closed
          obtain ⟨trace, same, written⟩ := notes.close ended
          refine ⟨⟨rfl, rfl, rfl⟩, fun path asked => ⟨trace, same, ?_⟩⟩
          cases traced.symm.trans asked
          exact written

end Audience

section
variable {settings : Settings} {workspace reached : Workspace} {path : Path} {world : World}

/-- The lines of the banner, if there shall be one and its file is there. -/
def bannerLines (settings : Settings) (workspace : Workspace) : List String :=
  match settings.banner with
  | none => []
  | some path =>
    match workspace.files.readLines workspace.directory path with
    | .ok lines => lines
    | .error _ => []

/-- A banner that can be shown is shown line by line, and one that is missing is not. -/
theorem shows_of_showBanner (shown : showBanner path workspace = .ok () reached)
    (asked : settings.banner = some path) :
    ∃ printed, String.join printed = String.join ((bannerLines settings workspace).map (· ++ "\n")) ∧
      workspace.Shows (printed.map .text) reached := by
  rw [showBanner, Job.get_bind] at shown
  simp only [bannerLines, asked]
  cases found : workspace.files.readLines workspace.directory path with
  | ok lines =>
      rw [found] at shown
      cases shown
      refine ⟨[String.join (lines.map (· ++ "\n"))], ?_, rfl, rfl, rfl⟩
      simp
  | error failure =>
      rw [found] at shown
      cases failure with
      | file error =>
          cases error with
          | notFound =>
              cases shown
              exact ⟨[], rfl, .refl workspace⟩
          | _ => cases shown
      | _ => cases shown

/-- A display that can be started without a banner has shown the start. -/
theorem shows_of_plainDisplay {display : Display} (plain : settings.banner = none)
    (started : startDisplay settings world workspace = .ok display reached) :
    display = ⟨settings.delay.toNat, true, 1⟩ ∧ 0 ≤ settings.delay ∧ reached.Allows settings.delay.toNat ∧
      workspace.Shows (world.showing settings.delay.toNat) reached := by
  rw [startDisplay, plain] at started
  obtain ⟨screen, _, created, drawn⟩ := Job.bind_eq_ok.mp started
  obtain ⟨created, rfl⟩ := Job.ofExcept_eq_ok.mp created
  rw [Display.create] at created
  split at created
  · cases created
  · cases created
    obtain ⟨allows, rfl, shows, _⟩ := shows_of_draw drawn
    exact ⟨rfl, by omega, shows.allows allows, shows⟩

/-- A display that can be started has shown the banner and the start. -/
theorem shows_of_startDisplay {display : Display}
    (started : startDisplay settings world workspace = .ok display reached) :
    display = ⟨settings.delay.toNat, true, 1⟩ ∧ 0 ≤ settings.delay ∧ reached.Allows settings.delay.toNat ∧
      ∃ printed, String.join printed = String.join ((bannerLines settings workspace).map (· ++ "\n")) ∧
        workspace.Shows (printed.map .text ++ world.showing settings.delay.toNat) reached := by
  cases asked : settings.banner with
  | none =>
      obtain ⟨same, positive, allows, shows⟩ := shows_of_plainDisplay asked started
      exact ⟨same, positive, allows, [], by rw [bannerLines, asked]; rfl, shows⟩
  | some path =>
      rw [startDisplay, asked] at started
      obtain ⟨_, printed, banner, rest⟩ := Job.bind_eq_ok.mp started
      -- Behind its banner a display starts like one without.
      obtain ⟨same, positive, allows, shows⟩ := @shows_of_plainDisplay { settings with banner := none } printed reached
        world display rfl rest
      obtain ⟨texts, joined, shown⟩ := shows_of_showBanner banner asked
      exact ⟨same, positive, allows, texts, joined, shown.trans shows⟩

/-- A recorder that can be started has noted the start. -/
theorem notes_of_startRecorder {recorder : Recorder}
    (started : startRecorder settings path world workspace = .ok recorder reached) :
    recorder.path = path ∧ recorder.Notes settings.runId [TraceRow.ofWorld settings.runId ("start" : String) world] ∧
      workspace.Shows [] reached := by
  obtain ⟨_, _, made, rest⟩ := Job.bind_eq_ok.mp started
  obtain ⟨created, rfl⟩ := Job.ofExcept_eq_ok.mp made
  cases created
  obtain ⟨_, prepared, made, recorded⟩ := Job.bind_eq_ok.mp rest
  rw [Job.get_bind, Job.set_bind, Recorder.recordStart] at recorded
  let fresh : Recorder := { path, runId := settings.runId, threshold := (Recorder.defaultThreshold : Int).toNat }
  have unwritten : fresh.Notes settings.runId [] := ⟨rfl, rfl, rfl⟩
  obtain ⟨same, notes⟩ := unwritten.record prepared.files prepared.directory ("start" : String) world
  rw [Job.ensureParent_eq] at made
  split at made
  · cases made
    cases failed : (fresh.record _ _ ("start" : String) world).failure with
    | some failure =>
        rw [failed] at recorded
        cases recorded
    | none =>
        rw [failed] at recorded
        cases recorded
        exact ⟨same, notes, rfl, rfl, rfl⟩
  · cases made

/-- Observers that have been started with a display have shown the banner and the start. -/
theorem audience_of_startObservers {observers : List Observer} (on : settings.display = true)
    (started : startObservers settings world workspace = .ok observers reached) :
    0 ≤ settings.delay ∧ reached.Allows settings.delay.toNat ∧
      Audience settings [TraceRow.ofWorld settings.runId ("start" : String) world] observers ∧
      ∃ printed, String.join printed = String.join ((bannerLines settings workspace).map (· ++ "\n")) ∧
        workspace.Shows (printed.map .text ++ world.showing settings.delay.toNat) reached := by
  simp only [startObservers, on, if_true] at started
  obtain ⟨display, drawn, shown, rest⟩ := Job.bind_eq_ok.mp started
  obtain ⟨rfl, positive, allows, printed, joined, shows⟩ := shows_of_startDisplay shown
  rw [pure_bind] at rest
  cases asked : settings.trace with
  | none =>
      rw [asked, pure_bind] at rest
      cases rest
      exact ⟨positive, allows, .alone asked, printed, joined, shows⟩
  | some path =>
      rw [asked] at rest
      obtain ⟨recorder, _, begun, ended⟩ := Job.bind_eq_ok.mp rest
      obtain ⟨rfl, notes, still⟩ := notes_of_startRecorder begun
      cases ended
      have shows := shows.trans still
      rw [List.append_nil] at shows
      exact ⟨positive, still.allows allows, .together asked notes, printed, joined, shows⟩

end

end Session

/-- A printed board shows the robot as a row tells: its glyph stands in the column and the line of the text that the
row gives. -/
def TraceRow.IsDrawn (row : TraceRow) (board : String) : Prop :=
  ∃ (x y : Nat) (facing : Direction) (line : String), row.x = x ∧ row.y = y ∧ row.facing = facing.name ∧
    (Text.splitSource board)[y]? = some line ∧ line.toList[x]? = some (Map.glyph facing)

/-- The robot is drawn where it stands. -/
theorem World.Placed.isDrawn {world : World} (placed : world.Placed) (runId : WideString) (action : String) :
    (TraceRow.ofWorld runId action world).IsDrawn (Map.draw world) := by
  obtain ⟨x, y, here, inWidth, inHeight⟩ := exists_of_inBounds placed.robot.1
  refine ⟨x, y, world.robot.facing, String.ofList (Map.drawRow world y), congrArg Cell.x here, congrArg Cell.y here,
    rfl, ?_, ?_⟩
  · rw [Map.splitSource_draw (Nat.zero_lt_of_lt inWidth), Map.drawRows, List.getElem?_map,
      List.getElem?_range inHeight]
    rfl
  · rw [String.toList_ofList, Map.drawRow, List.getElem?_map, List.getElem?_range inWidth]
    simp only [Option.map_some, Map.charAt, here, if_true]

theorem Report.steps_of_ofExecution {execution : Execution} {report : Report}
    (reported : Report.ofExecution execution = .ok report) : report.steps = execution.world.steps :=
  Int.ofNat.inj (Report.shown_ofWorld ("" : String) "" reported).step.symm

namespace World

/-- The worlds of a run as a console shows them: the start, and the world after each action. -/
structure Frames (start : World) (actions : List Action) (worlds : List World) : Prop where
  size : worlds.length = actions.length + 1
  each : ∀ number ≤ actions.length, ∃ world,
    (actions.take number).foldlM perform start = .ok world ∧ worlds[number]? = some world

section
variable {start last : World} {actions : List Action}

theorem frames_moments (replayed : actions.foldlM perform start = .ok last) :
    start.Frames actions ((start.moments actions).map (·.2)) := by
  refine ⟨by rw [List.length_map, length_moments replayed], ?_⟩
  intro number inside
  obtain ⟨world, led⟩ := replay_take replayed number
  obtain ⟨name, there⟩ := moments_getElem? replayed led inside
  refine ⟨world, led, ?_⟩
  rw [List.getElem?_map, there]
  rfl

/-- The row of the start comes before those of the history. -/
theorem chronicle_eq_append (start : World) (runId : WideString) (actions : List Action) :
    start.chronicle runId actions = [TraceRow.ofWorld runId ("start" : String) start] ++
      (start.history actions).map fun entry => TraceRow.ofWorld runId entry.1.name entry.2 := by
  simp [chronicle, moments]

/-- The start is shown before the history. -/
theorem showing_moments (start : World) (delay : Nat) (actions : List Action) :
    ((start.moments actions).map (·.2)).flatMap (showing delay) =
      start.showing delay ++ (start.history actions).flatMap fun entry => entry.2.showing delay := by
  simp [moments, List.flatMap_map]

/-- A row of a trace tells of the robot in the frame of the same number. -/
theorem Frames.isDrawn {worlds : List World} (frames : start.Frames actions worlds) (placed : start.Placed)
    (replayed : actions.foldlM perform start = .ok last) {runId : WideString} {number : Nat} {row : TraceRow}
    (present : (start.chronicle runId actions)[number]? = some row) :
    ∃ world, worlds[number]? = some world ∧ row.IsDrawn (Map.draw world) := by
  obtain ⟨action, world, led, inside, rfl⟩ := chronicle_getElem? replayed present
  obtain ⟨other, led', there⟩ := frames.each number inside
  cases led.symm.trans led'
  exact ⟨world, there, (placed.accounts_of_replay led).placed.isDrawn _ _⟩

theorem texts_rest (delay : Nat) : (Showing.rest delay).filterMap Showing.text? = [] := by
  rw [Showing.rest]
  split <;> rfl

theorem pauses_rest (delay : Nat) :
    (Showing.rest delay).filterMap Showing.pause? = if delay = 0 then [] else [delay] := by
  rw [Showing.rest]
  split <;> rfl

/-- All that is printed of worlds are their frames. -/
theorem texts_showing (delay : Nat) (worlds : List World) :
    (worlds.flatMap (showing delay)).filterMap Showing.text? = worlds.map Map.frame := by
  induction worlds with
  | nil => rfl
  | cons world rest inductionHypothesis =>
      rw [List.flatMap_cons, List.filterMap_append, inductionHypothesis, List.map_cons, showing,
        List.filterMap_append, texts_rest]
      rfl

/-- There is a pause before every frame if there shall be any. -/
theorem pauses_showing (delay : Nat) (worlds : List World) :
    (worlds.flatMap (showing delay)).filterMap Showing.pause? =
      if delay = 0 then [] else List.replicate worlds.length delay := by
  induction worlds with
  | nil => simp
  | cons world rest inductionHypothesis =>
      rw [List.flatMap_cons, List.filterMap_append, inductionHypothesis, showing, List.filterMap_append, pauses_rest]
      split
      · rfl
      · rfl

end

end World

namespace Workspace.Shows

variable {workspace reached : Workspace} {delay : Nat} {printed : List String} {worlds : List World}
  {torn : List Showing} {last : World}

/-- What is printed of a text, the frames of worlds, what there is of a torn frame, and a last frame. -/
theorem output_frames (shows : workspace.Shows (printed.map .text ++ worlds.flatMap (World.showing delay) ++ torn ++
      last.showing delay) reached) :
    reached.output = workspace.output ++ String.join printed ++ String.join (worlds.map Map.frame) ++
      String.join (torn.filterMap Showing.text?) ++ Map.frame last := by
  rw [shows.output, List.filterMap_append, List.filterMap_append, List.filterMap_append, Showing.texts_text,
    World.texts_showing, World.showing, List.filterMap_append, World.texts_rest]
  simp only [String.join_append, String.append_assoc]
  simp [Showing.text?]

theorem pauses_frames (shows : workspace.Shows (printed.map .text ++ worlds.flatMap (World.showing delay) ++ torn ++
      last.showing delay) reached) :
    reached.pauses = workspace.pauses ++ ((if delay = 0 then [] else List.replicate worlds.length delay) ++
      torn.filterMap Showing.pause? ++ if delay = 0 then [] else [delay]) := by
  rw [shows.pauses, List.filterMap_append, List.filterMap_append, List.filterMap_append, Showing.pauses_text,
    World.pauses_showing, World.showing, List.filterMap_append, World.pauses_rest, List.nil_append]
  simp [Showing.pause?]

end Workspace.Shows

namespace Session

section
variable {fuel : Nat} {settings : Settings} {workspace reached started ended drawn : Workspace} {report : Report}
  {sources : Sources} {observers : List Observer} {told : Watched Observer}

/-- At the end at most the picture is stored, and nothing is shown of that. -/
theorem Returns.stores
    (returns : Returns fuel settings workspace report reached sources observers started told ended drawn) :
    drawn.Shows [] reached ∧
      drawn.files.Extends reached.files (settings.snapshot.toList.map (·.resolveParts drawn.directory)) := by
  cases asked : settings.snapshot with
  | none =>
      rw [returns.plain asked]
      exact ⟨.refl drawn, .refl _ _⟩
  | some snapshot =>
      have saved := returns.pictured snapshot asked
      have extended := Job.extends_saveFigure (lastPicture sources told.execution snapshot) snapshot drawn
      rw [Job.after_of_ok saved] at extended
      refine ⟨?_, extended⟩
      rw [Job.saveFigure_eq] at saved
      split at saved
      · cases saved
        exact ⟨rfl, rfl, rfl⟩
      · cases saved

/-- What is torn of a frame after those of so many actions: nothing, or all but the screen that was cleared for it, and
this only if the run has done more than these actions. -/
def Torn (delay : Nat) (execution : Execution) (drawn : List Action) (torn : List Showing) : Prop :=
  torn = [] ∨ torn = Showing.torn delay ∧ drawn ≠ execution.actions

/-- When the program has ended, its run has been shown behind the banner, and its chronicle is noted, as far as there
was nesting for it. -/
theorem Returns.audience
    (returns : Returns fuel settings workspace report reached sources observers started told ended drawn)
    (on : settings.display = true) :
    0 ≤ settings.delay ∧ ∃ shown torn printed, sources.Comes fuel told.execution shown ∧
      Torn settings.delay.toNat told.execution shown torn ∧
      Audience settings (sources.world.chronicle settings.runId shown) told.listeners ∧
      String.join printed = String.join ((bannerLines settings workspace).map (· ++ "\n")) ∧
      workspace.Shows (printed.map .text ++ ((sources.world.moments shown).map (·.2)).flatMap
        (World.showing settings.delay.toNat) ++ torn) told.workspace := by
  obtain ⟨positive, allows, audience, printed, joined, banner⟩ := audience_of_startObservers on returns.observed
  have heard := returns.heard
  have follows := sources.program.follows_watch fuel sources.world {} observers started
  rw [returns.watched] at follows
  have rows := sources.world.chronicle_eq_append settings.runId
  have shown := sources.world.showing_moments settings.delay.toNat
  refine ⟨positive, ?_⟩
  cases follows with
  | heard tells =>
      obtain ⟨audience, after⟩ := audience.tells allows tells
      refine ⟨_, [], printed, .whole, Or.inl rfl, rows _ ▸ audience, joined, ?_⟩
      have whole := banner.trans after
      rw [List.append_assoc, ← shown] at whole
      rwa [List.append_nil]
  | @broken left number action rest before more next told heard' middle reached failure passes replayed tells performed
      failed later =>
      obtain ⟨audience, after⟩ := audience.tells allows tells
      have before' := banner.trans after
      rw [List.append_assoc, ← shown] at before'
      rw [← rows] at audience
      have failure' := congrArg Attempt.failure failed
      rcases Observer.failure_of_notifyAll failure' with foreign | ⟨rfl, tight⟩
      · rw [foreign number] at heard
        cases heard
      · have cut := Program.CutsShort.of_broken passes replayed performed later
        have together := World.history_concat replayed performed
        rcases audience.notifyAll (after.allows allows) left action next with
          ⟨audience, last⟩ | ⟨crowded, _, audience, last⟩
        · rw [failed] at audience last
          refine ⟨_, [], printed, .late cut tight, Or.inl rfl, ?_, joined, ?_⟩
          · rw [rows, together, List.map_append, ← List.append_assoc, ← rows]
            exact audience
          · have whole := before'.trans last
            rw [shown, together, List.flatMap_append, ← List.append_assoc, ← List.append_assoc, List.append_nil]
            rw [shown, ← List.append_assoc] at whole
            change workspace.Shows _ reached
            simpa using whole
        · rw [failed] at audience last
          have fewer : before.actions.reverse ≠ (action :: before.actions).reverse := by simp
          rcases last with still | torn
          · exact ⟨_, [], printed, .missed cut crowded, Or.inl rfl, audience, joined, before'.trans still⟩
          · exact ⟨_, _, printed, .missed cut crowded, Or.inr ⟨rfl, fewer⟩, audience, joined, before'.trans torn⟩

/-- What the console has got to see in the end, and what the trace of the run holds. -/
theorem Returns.shown
    (returns : Returns fuel settings workspace report reached sources observers started told ended drawn)
    (on : settings.display = true) :
    0 ≤ settings.delay ∧ ∃ shown torn printed, sources.Comes fuel told.execution shown ∧
      Torn settings.delay.toNat told.execution shown torn ∧
      String.join printed = String.join ((bannerLines settings workspace).map (· ++ "\n")) ∧
      workspace.Shows (printed.map .text ++ ((sources.world.moments shown).map (·.2)).flatMap
        (World.showing settings.delay.toNat) ++ torn ++ told.execution.world.showing settings.delay.toNat) reached ∧
      ∀ path, settings.trace = some path → ∃ trace,
        Trace.rows trace = sources.world.chronicle settings.runId shown ∧
        ((∀ snapshot, settings.snapshot = some snapshot →
            snapshot.resolve workspace.directory ≠ path.resolve workspace.directory) →
          reached.files.loadTrace workspace.directory path = .ok trace) := by
  obtain ⟨positive, shown, torn, printed, comes, tears, audience, joined, before⟩ := returns.audience on
  obtain ⟨closing, kept⟩ := audience.closeRecorders returns.closed
  obtain ⟨last, unchanged⟩ := audience.showEnd returns.shows
  refine ⟨positive, shown, torn, printed, comes, tears, joined, ?_, ?_⟩
  · simpa using ((before.trans closing).trans last).trans returns.stores.1
  · intro path traced
    obtain ⟨trace, rows, written⟩ := kept path traced
    refine ⟨trace, rows, fun apart => ?_⟩
    have place : drawn.directory = workspace.directory :=
      last.directory.trans (closing.directory.trans before.directory)
    rw [before.directory, ← unchanged] at written
    apply FileTree.loadTrace_eq_ok.mpr
    apply returns.stores.2.read_eq _ written
    intro member
    obtain ⟨snapshot, asked, same⟩ := List.mem_map.mp member
    rw [place] at same
    exact apart snapshot (Option.mem_toList.mp asked) (congrArg (Path.mk .slash) same)

end

/-- The console shows every state of a run in order, as far as there is nesting left for it. Behind the banner come the
frames of the start and of the world after each action that is shown, and in the end that of the last world, each
after its pause. All actions are shown, unless the run is cut short; then the frame of the last one may be missing or
torn. If a trace is recorded too, each of its rows tells of the robot in the frame of the same number. -/
theorem console_shows_every_state (fuel : Nat) (settings : Settings) (workspace : Workspace) (report : Report)
    (reached : Workspace) (on : settings.display = true)
    (returned : run fuel settings workspace = .ok report reached) :
    ∃ map sources execution shown worlds, ∃ torn : Bool,
      workspace.files.loadMap workspace.directory settings.map = .ok map ∧
      map.setBag settings.beepers = .ok sources.world ∧ load settings workspace = .ok sources workspace ∧
      sources.Comes fuel execution shown ∧ Report.ofExecution execution = .ok report ∧
      execution.actions.length = report.steps ∧
      execution.actions.foldlM World.perform sources.world = .ok execution.world ∧
      sources.world.Frames shown worlds ∧ (torn = true → shown ≠ execution.actions) ∧
      reached.output = workspace.output ++ String.join ((bannerLines settings workspace).map (· ++ "\n")) ++
        String.join (worlds.map fun world => clearScreen ++ Map.draw world ++ "\n") ++
        (if torn then clearScreen else "") ++ (clearScreen ++ Map.draw execution.world ++ "\n") ∧
      reached.pauses = workspace.pauses ++ (if settings.delay = 0 then [] else
        List.replicate (shown.length + 2 + torn.toNat) settings.delay.toNat) ∧
      ∀ path, settings.trace = some path → ∃ trace, (Trace.rows trace).length = shown.length + 1 ∧
        (∀ (number : Nat) (row : TraceRow), (Trace.rows trace)[number]? = some row →
          ∃ world, worlds[number]? = some world ∧ row.IsDrawn (Map.draw world)) ∧
        ((∀ snapshot, settings.snapshot = some snapshot →
            snapshot.resolve workspace.directory ≠ path.resolve workspace.directory) →
          reached.files.loadTrace workspace.directory path = .ok trace) := by
  obtain ⟨sources, observers, started, told, ended, drawn, returns⟩ := returns_of_run returned
  obtain ⟨_, _, map, lines, read, _, bagged, _⟩ := load_eq_ok.mp returns.loaded
  obtain ⟨placed, fresh⟩ := placed_of_load returns.loaded
  obtain ⟨positive, shown, torn, printed, comes, tears, joined, shows, stores⟩ := returns.shown on
  obtain ⟨whole, last, replayed⟩ := comes.replayed
  have frames := World.frames_moments replayed
  have steps := Report.steps_of_ofExecution returns.reported
  have count : told.execution.actions.length = report.steps :=
    (World.recorded_chronicle placed fresh whole settings.runId).count.trans steps.symm
  have still : settings.delay.toNat = 0 ↔ settings.delay = 0 := by omega
  have printed' := shows.output_frames
  have paused := shows.pauses_frames
  rw [joined] at printed'
  rw [frames.size] at paused
  simp only [still] at paused
  have traced : ∀ path, settings.trace = some path → ∃ trace, (Trace.rows trace).length = shown.length + 1 ∧
      (∀ (number : Nat) (row : TraceRow), (Trace.rows trace)[number]? = some row →
        ∃ world, ((sources.world.moments shown).map (·.2))[number]? = some world ∧ row.IsDrawn (Map.draw world)) ∧
      ((∀ snapshot, settings.snapshot = some snapshot →
          snapshot.resolve workspace.directory ≠ path.resolve workspace.directory) →
        reached.files.loadTrace workspace.directory path = .ok trace) := by
    intro path asked
    obtain ⟨trace, rows, stored⟩ := stores path asked
    refine ⟨trace, ?_, fun number row present => ?_, stored⟩
    · rw [rows, World.chronicle, List.length_map, World.length_moments replayed]
    · rw [rows] at present
      exact frames.isDrawn placed replayed present
  rcases tears with rfl | ⟨rfl, fewer⟩
  · refine ⟨map, sources, _, shown, _, false, read, bagged, returns.loaded, comes, returns.reported, count, whole,
      frames, fun broken => absurd broken Bool.false_ne_true, printed', ?_, traced⟩
    rw [paused]
    split
    · rfl
    · rw [List.filterMap_nil, List.append_nil, ← List.replicate_succ']
      rfl
  · refine ⟨map, sources, _, shown, _, true, read, bagged, returns.loaded, comes, returns.reported, count, whole,
      frames, fun _ => fewer, ?_, ?_, traced⟩
    · rw [printed', Showing.torn, List.filterMap_append, World.texts_rest]
      rfl
    · rw [paused, Showing.torn, List.filterMap_append, World.pauses_rest]
      simp only [still]
      split
      · rfl
      · simp [Showing.pause?, List.replicate_succ']

/-- Settings that show the errand on a screen, slowly, and store its trace. -/
def errandWatched : Settings where
  beepers := 2
  delay := 40
  banner := some ⟨.none, ["LOGO.txt"]⟩
  trace := some ⟨.none, ["logs", "trace.parquet"]⟩

theorem console_shows_every_state_errand :
    ∃ (report : Report) (reached : Workspace) (worlds : List World) (last : World) (trace : Trace),
      run 20 errandWatched errand = .ok report reached ∧ report.steps = 3 ∧
      reached.output = String.join (worlds.map fun world => clearScreen ++ Map.draw world ++ "\n") ++
        (clearScreen ++ Map.draw last ++ "\n") ∧
      worlds.length = 4 ∧ reached.pauses = [40, 40, 40, 40, 40] ∧
      reached.files.loadTrace ["home"] ⟨.none, ["logs", "trace.parquet"]⟩ = .ok trace ∧
      (Trace.rows trace).length = 4 := by
  have given : (run 20 errandWatched).value? errand =
      some ⟨3, ⟨2, 0⟩, .east, 3, 0, some (.onLine (.robot .frontBlocked) 5)⟩ := by decide +kernel
  have missing : bannerLines errandWatched errand = [] := by decide +kernel
  obtain ⟨reached, returned⟩ := Job.value?_eq_some.mp given
  obtain ⟨map, sources, execution, shown, worlds, torn, _, _, _, comes, reported, count, _, frames, tears, output,
    pauses, traced⟩ := console_shows_every_state 20 errandWatched errand _ reached rfl returned
  obtain ⟨trace, size, _, stored⟩ := traced ⟨.none, ["logs", "trace.parquet"]⟩ rfl
  obtain ⟨_, rfl⟩ := comes.whole_of_report reported (by decide)
  obtain rfl : torn = false := Bool.eq_false_iff.mpr fun broken => tears broken rfl
  have size' := frames.size
  rw [count] at size size' pauses
  rw [missing] at output
  refine ⟨_, reached, worlds, execution.world, trace, returned, rfl, ?_, size', pauses, stored nofun, size⟩
  rw [output]
  simp [errand, Workspace.output]

end Session

end GridRobot
