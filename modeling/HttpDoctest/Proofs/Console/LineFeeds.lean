import HttpDoctest.Proofs.Console.Pieces
import HttpDoctest.Proofs.Console.Writes

set_option autoImplicit false

/-! # Counting line feeds

A console counts the line feeds that end what is seen of its output. The count is kept chunk by
chunk, and a chunk may be refused, while what is seen is the whole text written since the last
reset without its colour sequences. That text is at all times one in which no sequence is left
open (`Exact`), so what is seen of it is what is seen of its chunks, and the count is exact
(`lineFeeds_are_those_seen`).
-/

namespace HttpDoctest

namespace Text

/-- A text of line feeds alone adds to those in front of it. -/
theorem trailingLineFeeds_append (front back : List Char) :
    trailingLineFeeds (front ++ back) =
      if trailingLineFeeds back = back.length then trailingLineFeeds front + back.length
      else trailingLineFeeds back := by
  unfold trailingLineFeeds
  rw [List.reverse_append, List.takeWhile_append, List.length_reverse]
  split
  · rw [List.length_append, List.length_reverse, Nat.add_comm]
  · rfl

theorem trailingLineFeeds_replicate (count : Nat) :
    trailingLineFeeds (List.replicate count '\n') = count := by
  simp [trailingLineFeeds]

theorem trailingLineFeeds_append_replicate (front : List Char) (count : Nat) :
    trailingLineFeeds (front ++ List.replicate count '\n') = trailingLineFeeds front + count := by
  rw [trailingLineFeeds_append, trailingLineFeeds_replicate, List.length_replicate, if_pos rfl]

end Text

namespace Console

/-- Behind a text that ends in the line feeds counted, the count goes on. -/
theorem lineFeedsAfter_eq (front text : List Char) :
    lineFeedsAfter (Text.trailingLineFeeds front) text =
      Text.trailingLineFeeds (front ++ Ansi.strip text) := by
  rw [Text.trailingLineFeeds_append, lineFeedsAfter]
  split
  · next hall => rw [hall]
  · rfl

/-! ## The invariant -/

/-- Whether a console counts exactly the line feeds that end what is seen of `text`. -/
structure Exact (console : Console) (text : List Char) : Prop where
  whole : Ansi.Whole text
  holdsCodes : Ansi.strip console.held = []
  count : console.lineFeeds = Text.trailingLineFeeds (Ansi.strip text)

theorem exact_ofSink (sink : Sink) (color : Bool) : (ofSink sink color).Exact [] where
  whole := Ansi.whole_nil
  holdsCodes := Ansi.strip_nil
  count := by rw [Ansi.strip_nil]; rfl

theorem strip_code_eq_nil (console : Console) {sequence : List Char}
    (h : Ansi.strip sequence = []) : Ansi.strip (console.code sequence) = [] := by
  unfold code
  split
  · exact h
  · exact Ansi.strip_nil

namespace Exact

variable {console next : Console} {text : List Char}

theorem letGo (h : console.Exact text) (sink : Sink) : (console.letGo sink).Exact text :=
  ⟨h.whole, Ansi.strip_nil, h.count⟩

theorem strip_append_held (h : console.Exact text) :
    Ansi.strip (text ++ console.held) = Ansi.strip text := by
  rw [h.whole.strip_append, h.holdsCodes, List.append_nil]

/-- Codes that are written leave what is seen as it is. -/
theorem letGo_held (h : console.Exact text) (sink : Sink) :
    (console.letGo sink).Exact (text ++ console.held) where
  whole := h.whole.append (Ansi.whole_of_strip_eq_nil h.holdsCodes)
  holdsCodes := Ansi.strip_nil
  count := h.strip_append_held.symm ▸ h.count

theorem log (h : console.Exact text) (sink : Sink) (line : List Char) :
    Exact { console.letGo sink with
      lineFeeds := lineFeedsAfter console.lineFeeds (line ++ ['\n']) }
      (text ++ console.held ++ (line ++ ['\n'])) where
  whole := (h.letGo_held sink).whole.append (Ansi.whole_line line)
  holdsCodes := Ansi.strip_nil
  count := by
    rw [(h.letGo_held sink).whole.strip_append, h.strip_append_held, ← lineFeedsAfter_eq, ← h.count]

theorem insertLineFeeds (h : console.Exact text) (sink : Sink) {count : Nat}
    (hmissing : console.lineFeeds < count) :
    Exact { console with sink := sink, lineFeeds := count }
      (text ++ List.replicate (count - console.lineFeeds) '\n') where
  whole := h.whole.append (Ansi.whole_lineFeeds _)
  holdsCodes := h.holdsCodes
  count := by
    show count = _
    rw [h.whole.strip_append, Ansi.strip_lineFeeds, Text.trailingLineFeeds_append_replicate,
      ← h.count]
    omega

theorem format (h : console.Exact text) {sequence : List Char}
    (hcode : Ansi.strip sequence = []) :
    Exact { console with held := console.held ++ console.code sequence } text where
  whole := h.whole
  holdsCodes := by
    rw [Ansi.strip_append_of_strip_eq_nil h.holdsCodes]
    exact strip_code_eq_nil console hcode
  count := h.count

end Exact

/-! ## The text since the last reset -/

/-- The text written since the last successful reset, behind an action that wrote `added`. -/
def textAfter (text added : List Char) : Action → Except ConsoleError Unit → List Char
  | .reset, .ok () => []
  | _, _ => text ++ added

theorem textAfter_error (text added : List Char) (action : Action) (error : ConsoleError) :
    textAfter text added action (.error error) = text ++ added := by
  cases action <;> rfl

/-- The text written since the last successful reset, behind actions in front of which it was
`text`. -/
def sinceReset (console : Console) (text : List Char) : List Action → List Char
  | [] => text
  | action :: actions =>
      sinceReset (console.after action)
        (textAfter text (wrote console (console.after action)) action
          (exec action.perform console).1)
        actions

section Kept

variable {console next : Console} {text : List Char} {action : Action}
  {result : Except ConsoleError Unit}
  (hkept : ∀ added, textAfter text added action result = text ++ added)
include hkept

theorem Exact.of_taken {added : List Char}
    (hwritten : next.sink.written = console.sink.written ++ added)
    (h : next.Exact (text ++ added)) :
    next.Exact (textAfter text (wrote console next) action result) := by
  rw [wrote_eq hwritten, hkept]
  exact h

theorem Exact.of_refused (hwritten : next.sink.written = console.sink.written)
    (h : next.Exact text) : next.Exact (textAfter text (wrote console next) action result) := by
  refine .of_taken hkept (hwritten.trans (List.append_nil _).symm) ?_
  rwa [List.append_nil]

end Kept

/-- Each way that an action may go keeps the count exact. -/
theorem Exact.does {console next : Console} {text : List Char} (h : console.Exact text)
    {action : Action} {result : Except ConsoleError Unit} (hcolours : action.Colours)
    (hdoes : Does console action result next) :
    next.Exact (textAfter text (wrote console next) action result) := by
  cases hdoes with
  | loses hreleases hheld =>
      exact .of_refused (textAfter_error text · action .closed) (Sink.written_of_refused hheld)
        (h.letGo _)
  | @logs line between sink hheld hline =>
      have hwritten : sink.written =
          console.sink.written ++ (console.held ++ (line ++ ['\n'])) := by
        rw [Sink.written_of_taken hline, Sink.written_of_taken hheld, List.append_assoc]
      refine .of_taken (fun _ => rfl) hwritten ?_
      rw [← List.append_assoc]
      exact h.log sink line
  | @breaksLog line between sink hheld hline =>
      -- the codes are written without the line, and nothing is seen of them
      exact .of_taken (textAfter_error text · _ .closed)
        ((Sink.written_of_refused hline).trans (Sink.written_of_taken hheld)) (h.letGo_held sink)
  | keeps =>
      exact .of_refused (fun _ => rfl) rfl h
  | @inserts count sink hmissing hfeeds =>
      exact .of_taken (fun _ => rfl) (Sink.written_of_taken hfeeds)
        (h.insertLineFeeds sink hmissing)
  | missesLineFeeds hmissing hfeeds =>
      exact .of_refused (textAfter_error text · _ .closed) (Sink.written_of_refused hfeeds)
        ⟨h.whole, h.holdsCodes, h.count⟩
  | holds sequence =>
      exact .of_refused (fun _ => rfl) rfl (h.format hcolours)
  | @flushes between sink hheld hflush =>
      exact .of_taken (fun _ => rfl)
        ((Sink.written_of_flush hflush).trans (Sink.written_of_taken hheld)) (h.letGo_held sink)
  | @breaksFlush _ between sink _ hheld hflush =>
      exact .of_taken (textAfter_error text · action .closed)
        ((Sink.written_of_flush hflush).trans (Sink.written_of_taken hheld)) (h.letGo_held sink)
  | resets =>
      -- the text starts anew, and so does the count
      exact ⟨Ansi.whole_nil, Ansi.strip_nil, by rw [textAfter, Ansi.strip_nil]; rfl⟩

/-- The count stays exact over any actions that hold back nothing but codes, whatever is logged
and whichever writes are refused. -/
theorem Exact.afterAll {console : Console} {text : List Char} (h : console.Exact text)
    {actions : List Action} (hcolours : ∀ action ∈ actions, action.Colours) :
    (console.afterAll actions).Exact (sinceReset console text actions) := by
  induction actions generalizing console text with
  | nil => exact h
  | cons action actions ih =>
      refine ih (h.does (hcolours action List.mem_cons_self) (does_perform console action)) ?_
      exact fun a ha => hcolours a (List.mem_cons_of_mem _ ha)

/-! ## Inserting line feeds -/

/-- Whether a console leaves another as line feeds up to `count` make it. -/
structure Inserts (count : Nat) (console next : Console) : Prop where
  written : next.sink.written =
    console.sink.written ++ List.replicate (count - console.lineFeeds) '\n'
  lineFeeds : next.lineFeeds = max console.lineFeeds count
  held : next.held = console.held
  color : next.color = console.color

theorem inserts_of_exec {console next : Console} {count : Nat}
    (h : exec (insertLineFeeds count) console = (.ok (), next)) : Inserts count console next := by
  by_cases hmissing : console.lineFeeds < count
  · rcases hfeeds : console.sink.write (List.replicate (count - console.lineFeeds) '\n') with
      ⟨_ | _, sink⟩
    · rw [exec_insertLineFeeds_of_eq hmissing hfeeds] at h
      cases h
    · rw [exec_insertLineFeeds_of_eq hmissing hfeeds] at h
      cases h
      exact ⟨Sink.written_of_taken hfeeds, (Nat.max_eq_right hmissing.le).symm, rfl, rfl⟩
  · have hle := Nat.not_lt.1 hmissing
    rw [exec_insertLineFeeds_of_le hle] at h
    cases h
    have hnone : count - console.lineFeeds = 0 := Nat.sub_eq_zero_of_le hle
    refine ⟨?_, (Nat.max_eq_left hle).symm, rfl, rfl⟩
    rw [hnone, List.replicate_zero, List.append_nil]

/-- Inserting twice is inserting up to the larger count. -/
theorem Inserts.trans {console next last : Console} {first second : Nat}
    (h : Inserts first console next) (h' : Inserts second next last) :
    Inserts (max first second) console last where
  written := by
    have hcount : (first - console.lineFeeds) + (second - max console.lineFeeds first) =
        max first second - console.lineFeeds := by omega
    rw [h'.written, h.written, h.lineFeeds, List.append_assoc, List.replicate_append_replicate,
      hcount]
  lineFeeds := by
    rw [h'.lineFeeds, h.lineFeeds]
    omega
  held := h'.held.trans h.held
  color := h'.color.trans h.color

/-- **The count of line feeds is exact.** Whatever is logged, whichever writes are refused, and
whatever codes are held: behind any actions a console counts the line feeds at the end of what is
seen of the text written since the last reset that succeeded. So line feeds that are inserted are
exactly those that are missing, and inserting twice is inserting up to the larger count. -/
theorem lineFeeds_are_those_seen (sink : Sink) (color : Bool) {actions : List Action}
    (h : ∀ action ∈ actions, action.Colours) :
    let console := (ofSink sink color).afterAll actions
    console.lineFeeds =
        Text.trailingLineFeeds (Ansi.strip (sinceReset (ofSink sink color) [] actions)) ∧
      (∀ count next, exec (insertLineFeeds count) console = (.ok (), next) →
        Inserts count console next) ∧
      ∀ first second next last, exec (insertLineFeeds first) console = (.ok (), next) →
        exec (insertLineFeeds second) next = (.ok (), last) →
        Inserts (max first second) console last := by
  intro console
  refine ⟨((exact_ofSink sink color).afterAll h).count, ?_, ?_⟩
  · intro count next hinsert
    exact inserts_of_exec hinsert
  · intro first second next last hfirst hsecond
    exact (inserts_of_exec hfirst).trans (inserts_of_exec hsecond)

/-- A sink of nine bytes that refuses a line behind the code in front of it: the code is no content,
the line is not counted, and the line feeds behind it are. -/
theorem lineFeeds_behind_refused_line :
    let start := ofSink (.limited 9) true
    let actions : List Action := [.log "a".toList, .format Ansi.red, .log "bb\x1b[3".toList,
      .log [], .insertLineFeeds 3]
    (∀ action ∈ actions, action.Colours) ∧ (start.afterAll actions).lineFeeds = 3 ∧
      Text.trailingLineFeeds (Ansi.strip (sinceReset start [] actions)) = 3 := by
  intro start actions
  have hcolours : ∀ action ∈ actions, action.Colours := by
    simp [actions, Action.Colours]
  have hcount : (start.afterAll actions).lineFeeds = 3 := by decide +kernel
  have hexact := (lineFeeds_are_those_seen (.limited 9) true hcolours).1
  exact ⟨hcolours, hcount, hexact.symm.trans hcount⟩

end Console

end HttpDoctest
