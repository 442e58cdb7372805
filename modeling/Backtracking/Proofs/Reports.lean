import Backtracking.Proofs.SuccessiveSearches
import Backtracking.Tool.Run

/-!
# What a search prints

A search goes through the lines of a text and reports those in which a regular expression matches.
Without colours a line is printed as it is, however many matches are marked in it: the matches of a
line lie one behind another, so that the pieces between them are all there and none is there twice.
The report of lines, their number, and the report of matching texts agree on what a match is.
-/

namespace Backtracking

/-! ## Lines -/

namespace Lines

/-- A text consists of some lines.  The last one may end with the text, and each of the others ends
with a line feed, or with a carriage return and a line feed. -/
inductive Are : List Char → List (List Char) → Prop where
  | none : Are [] []
  | last {line : List Char} (nonempty : line ≠ []) (unbroken : '\n' ∉ line) : Are line [line]
  | ended {line rest : List Char} {lines : List (List Char)} (unbroken : '\n' ∉ line)
      (bare : line.getLast? ≠ some '\r') (others : Are rest lines) :
      Are (line ++ '\n' :: rest) (line :: lines)
  | returned {line rest : List Char} {lines : List (List Char)} (unbroken : '\n' ∉ line)
      (others : Are rest lines) :
      Are (line ++ '\r' :: '\n' :: rest) (line :: lines)

theorem splitFrom_cons {character : Char} (unbroken : character ≠ '\n') (begun rest : List Char) :
    splitFrom begun (character :: rest) = splitFrom (character :: begun) rest := by
  rw [splitFrom]
  exact unbroken

/-- A text without a line feed goes on the line that was begun. -/
theorem splitFrom_append {line : List Char} (unbroken : '\n' ∉ line) (begun rest : List Char) :
    splitFrom begun (line ++ rest) = splitFrom (line.reverse ++ begun) rest := by
  induction line generalizing begun with
  | nil => rfl
  | cons character line ih =>
      rw [List.cons_append, splitFrom_cons (fun same => unbroken (by simp [same])),
        ih (fun member => unbroken (.tail _ member)), List.reverse_cons, List.append_assoc,
        List.singleton_append]

theorem dropReturn_of_ne {line : List Char} (bare : line.head? ≠ some '\r') :
    dropReturn line = line := by
  rw [dropReturn.eq_def]
  split
  · simp at bare
  · rfl

/-- The lines that were begun and are still to come, with the text they are the lines of. -/
theorem are_splitFrom (text : List Char) {begun : List Char} (unbroken : '\n' ∉ begun) :
    Are (begun.reverse ++ text) (splitFrom begun text) := by
  induction text generalizing begun with
  | nil =>
      rw [List.append_nil, splitFrom]
      split
      · next empty =>
          rw [List.isEmpty_iff.mp empty]
          exact .none
      · next nonempty => exact .last (by simpa using nonempty) (by simpa using unbroken)
  | cons character text ih =>
      by_cases ends : character = '\n'
      · subst ends
        have others : Are text (splitFrom [] text) := ih List.not_mem_nil
        rw [splitFrom]
        by_cases returns : begun.head? = some '\r'
        · obtain ⟨line, rfl⟩ := List.head?_eq_some_iff.mp returns
          rw [List.reverse_cons, List.append_assoc]
          exact .returned (fun member => unbroken (.tail _ (List.mem_reverse.mp member))) others
        · rw [dropReturn_of_ne returns]
          refine .ended (fun member => unbroken (List.mem_reverse.mp member)) ?_ others
          rwa [List.getLast?_reverse]
      · rw [splitFrom_cons ends, List.append_cons, ← List.reverse_cons]
        exact ih (by simp [Ne.symm ends, unbroken])

/-- The lines of a text are those that it is split into, and no others. -/
theorem are_iff {text : List Char} {lines : List (List Char)} :
    Are text lines ↔ lines = split text := by
  refine ⟨fun are => ?_, ?_⟩
  · induction are with
    | none => rfl
    | @last line nonempty unbroken =>
        have read := splitFrom_append unbroken [] []
        rw [List.append_nil, List.append_nil] at read
        rw [split, read, splitFrom, if_neg (by simpa using nonempty), List.reverse_reverse]
    | @ended line rest lines unbroken bare _ ih =>
        rw [split, splitFrom_append unbroken, splitFrom, List.append_nil,
          dropReturn_of_ne (by rwa [List.head?_reverse]), List.reverse_reverse, ih, split]
    | @returned line rest lines unbroken _ ih =>
        rw [split, splitFrom_append unbroken, splitFrom_cons (by decide), splitFrom, dropReturn,
          List.append_nil, List.reverse_reverse, ih, split]
  · rintro rfl
    exact are_splitFrom text List.not_mem_nil

theorem Are.length_le {text : List Char} {lines : List (List Char)} (are : Are text lines) :
    ∀ line ∈ lines, line.length ≤ text.length := by
  induction are with
  | none => simp
  | last => simp
  | ended _ _ _ ih | returned _ _ ih =>
      rw [List.forall_mem_cons]
      refine ⟨by simp, fun line member => Nat.le_trans (ih line member) ?_⟩
      rw [List.length_append]
      simp only [List.length_cons]
      omega

end Lines

/-! ## The matches in a line -/

namespace Span

/-- Spans lie one behind another, from a position on and within a given size.  These are the bounds
of the pieces between them. -/
inductive Ordered (size : Nat) : Nat → List Span → Prop where
  | done {position : Nat} (reached : position ≤ size) : Ordered size position []
  | next {position : Nat} {span : Span} {spans : List Span} (reached : position ≤ span.start)
      (ordered : span.start ≤ span.stop) (others : Ordered size span.stop spans) :
      Ordered size position (span :: spans)

theorem Ordered.le_size {size position : Nat} {spans : List Span}
    (ordered : Ordered size position spans) : position ≤ size := by
  induction ordered with
  | done reached => exact reached
  | next reached ordered _ ih => exact Nat.le_trans reached (Nat.le_trans ordered ih)

end Span

theorem Subject.substring_append (subject : Subject) {start middle stop : Nat}
    (before : start ≤ middle) (behind : middle ≤ stop) :
    subject.substring start middle ++ subject.substring middle stop =
      subject.substring start stop := by
  rw [substring, substring, substring, ← String.ofList_append, slice, slice, slice,
    ← Array.toList_append, Array.extract_append_extract, Nat.min_eq_left before,
    Nat.max_eq_right behind]

/-- Unless matches are marked, the pieces of a line are put together again. -/
theorem Report.markFrom_id {line : Subject} {position : Nat} {spans : List Span}
    (ordered : Span.Ordered line.size position spans) :
    markFrom id line position spans = line.substring position line.size := by
  induction ordered with
  | done _ => rfl
  | @next position span spans reached ordered others ih =>
      rw [markFrom, ih, id, line.substring_append reached ordered,
        line.substring_append (Nat.le_trans reached ordered) others.le_size]

namespace MatchState

variable {regexp : Regexp} {subject : Subject}

/-- The matches that successive searches find from a state on, up to the one that finds nothing. -/
inductive Successive (regexp : Regexp) (subject : Subject) : MatchState → List Span → Prop where
  | done {state after : MatchState} (fails : find regexp subject state = .ok (.ok false, after))
      (nothing : Leftmost regexp subject state.registers state.origin none) :
      Successive regexp subject state []
  | next {state after : MatchState} {span : Span} {spans : List Span}
      (finds : Finds regexp subject state span after)
      (others : Successive regexp subject after spans) :
      Successive regexp subject state (span :: spans)

/-- Each match begins where its search does or later, and the next search begins where it ends or
later. -/
theorem Successive.ordered {state : MatchState} {spans : List Span}
    (successive : Successive regexp subject state spans) {position : Nat}
    (reached : position ≤ state.origin) (inside : position ≤ subject.size) :
    Span.Ordered subject.size position spans := by
  induction successive generalizing position with
  | done _ _ => exact .done inside
  | @next state after span spans finds _ ih =>
      refine .next (Nat.le_trans reached finds.leftmost.1.origin_le) finds.start_le_stop
        (ih ?_ finds.stop_le_size)
      rw [finds.origin_eq]
      split
      · exact Nat.le_succ _
      · exact Nat.le_refl _

/-- The matches from a state on whose search finds one are this one and those behind it. -/
theorem findUpTo_of_finds {state next : MatchState}
    (finds : find regexp subject state = .ok (.ok true, next)) (room : Nat) :
    findUpTo regexp subject (room + 1) state =
      (findUpTo regexp subject room next).map (·.cons next) := by
  rw [findUpTo, finds]
  show (findUpTo regexp subject room next >>= fun others => pure (others.cons next)) = _
  cases findUpTo regexp subject room next <;> rfl

/-- With enough room, all matches are found, unless a search is given up.  Each search moves the
origin of the next one, so the room is enough if it reaches behind the subject.  No search
overflows, for where there was a match the subject has room for the least length. -/
theorem findUpTo_successive {parsed : ParsedPattern} (compiled : regexp.CompiledFrom parsed)
    (hold : HintsHold regexp subject) (addressable : subject.size < 2 ^ 63) {room : Nat}
    {state : MatchState} (sized : state.registers.Sized regexp)
    (within : state.origin ≤ subject.size + 1) (enough : subject.size + 2 ≤ room + state.origin)
    (fits : ¬ Overflows regexp subject state.usesHints state.origin)
    (quiet : ∀ sequence, findUpTo regexp subject room state = .ok sequence →
      sequence.error? = none) :
    ∃ found spans, findUpTo regexp subject room state = .ok ⟨found, none⟩ ∧
      Successive regexp subject state spans ∧ found.map (·.span? 0) = spans.map some := by
  induction room generalizing state with
  | zero => omega
  | succ room ih =>
      rcases find_cases compiled hold sized with
        ⟨overflow, fails⟩ | ⟨error, after, fails, -⟩ | ⟨after, fails, -, nothing⟩ |
          ⟨span, after, finds⟩
      · have words : subject.size < Width.greatestWord := Nat.lt_trans addressable (by decide)
        exact absurd ((find_eq_error_iff words).mp fails).1 fits
      · have given : findUpTo regexp subject (room + 1) state = .ok ⟨[], some error⟩ := by
          rw [findUpTo, fails]
          rfl
        cases quiet _ given
      · refine ⟨[], [], ?_, .done fails nothing, rfl⟩
        rw [findUpTo, fails]
        rfl
      · obtain ⟨moved, inside⟩ := find_origin compiled hold sized within finds.returns
        rw [if_pos rfl] at moved
        have unrolled := findUpTo_of_finds finds.returns room
        have fitsToo : ¬ Overflows regexp subject after.usesHints after.origin := by
          obtain ⟨tried, ⟨last, succeeds⟩, -⟩ := finds.leftmost
          have accepted : after.origin = (accept state ⟨span.start, span.stop⟩).origin :=
            finds.origin_eq
          rw [accepted]
          exact not_overflows_accept compiled hold addressable tried.le_size sized succeeds
        obtain ⟨found, spans, others, successive, texts⟩ :=
          ih (find_sized sized finds.returns) inside (by omega) fitsToo fun sequence returns => by
            rw [returns] at unrolled
            exact quiet (sequence.cons after) unrolled
        rw [others] at unrolled
        exact ⟨after :: found, span :: spans, unrolled, .next finds successive,
          congrArg₂ List.cons finds.span_eq texts⟩

end MatchState

namespace Regexp

open MatchState

variable {regexp : Regexp} {line : Subject}

/-- The states behind the matches in a line. -/
def foundIn (regexp : Regexp) (line : Subject) : List MatchState :=
  ((regexp.findAll line).toOption.map (·.found)).getD []

def matchesIn (regexp : Regexp) (line : Subject) : List Span :=
  (regexp.foundIn line).filterMap (·.span? 0)

/-- What is known of the matches in a line.

* `returns`: no search overflows and none is given up.
* `successive`: they are what successive searches find, and the search after the last one finds
  nothing.
* `found`: each state that is found tells its match.
* `ordered`: they lie one behind another, and so do the pieces of the line between them.
* `restored`: the line comes out unaltered when they are marked without colours.
* `isMatch_eq`: the line matches if there is at least one.
* `isMatch_iff`: it matches if an attempt at one of its positions succeeds. -/
structure Searched (regexp : Regexp) (line : Subject) : Prop where
  returns : regexp.findAll line = .ok ⟨regexp.foundIn line, none⟩
  successive : Successive regexp line (.initial regexp) (regexp.matchesIn line)
  found : (regexp.foundIn line).map (·.span? 0) = (regexp.matchesIn line).map some
  ordered : Span.Ordered line.size 0 (regexp.matchesIn line)
  restored : Report.markMatches id line (regexp.foundIn line) = line.toString
  isMatch_eq : regexp.isMatch line = .ok (.ok (!(regexp.matchesIn line).isEmpty))
  isMatch_iff : regexp.isMatch line = .ok (.ok true) ↔
    ∃ position stop, Tried regexp line 0 position ∧
      MatchesAt regexp line (MatchState.initial regexp).registers position stop

theorem isMatch_eq_of_successive {spans : List Span}
    (successive : Successive regexp line (.initial regexp) spans) :
    regexp.isMatch line = .ok (.ok (!spans.isEmpty)) := by
  rw [isMatch]
  cases successive with
  | done fails _ =>
      rw [fails]
      rfl
  | next finds _ =>
      rw [finds.returns]
      rfl

theorem isMatch_iff_of_successive {spans : List Span}
    (successive : Successive regexp line (.initial regexp) spans) :
    regexp.isMatch line = .ok (.ok true) ↔
      ∃ position stop, Tried regexp line 0 position ∧
        MatchesAt regexp line (MatchState.initial regexp).registers position stop := by
  rw [isMatch_eq_of_successive successive]
  cases successive with
  | done _ nothing =>
      refine ⟨fun impossible => (by cases impossible), ?_⟩
      rintro ⟨position, stop, tried, succeeds⟩
      exact absurd succeeds (nothing position tried stop)
  | next finds _ =>
      obtain ⟨tried, succeeds, -⟩ := finds.leftmost
      exact ⟨fun _ => ⟨_, _, tried, succeeds⟩, fun _ => rfl⟩

/-- Unless a search is given up, everything is known of the matches in a line. -/
theorem searched_of_quiet {parsed : ParsedPattern} (compiled : regexp.CompiledFrom parsed)
    (hold : HintsHold regexp line) (addressable : line.size < 2 ^ 63)
    (quiet : ∀ sequence, regexp.findAll line = .ok sequence → sequence.error? = none) :
    regexp.Searched line := by
  have sized : (MatchState.initial regexp).registers.Sized regexp := Registers.initial_sized regexp
  obtain ⟨found, spans, returns, successive, told⟩ :=
    findUpTo_successive compiled hold addressable sized (Nat.zero_le _) (Nat.le_of_eq rfl)
      (not_overflows_zero compiled line true) quiet
  have all : regexp.findAll line = .ok ⟨found, none⟩ := returns
  have states : regexp.foundIn line = found := by
    rw [foundIn, all]
    rfl
  have same : regexp.matchesIn line = spans := by
    calc regexp.matchesIn line
        = (found.map (·.span? 0)).filterMap id := by
          rw [matchesIn, states, List.filterMap_map]
          rfl
      _ = (spans.map some).filterMap id := congrArg (List.filterMap id) told
      _ = spans := by
          rw [List.filterMap_map]
          exact List.filterMap_some
  have ordered := successive.ordered (Nat.le_refl 0) (Nat.zero_le line.size)
  rw [← same] at successive told ordered
  rw [← states] at told
  have whole : line.substring 0 line.size = line.toString := by
    rw [Subject.substring, Subject.slice, Subject.size, Array.extract_size, Subject.toString]
  exact {
    returns := states ▸ all
    successive
    found := told
    ordered
    restored := (Report.markFrom_id ordered).trans whole
    isMatch_eq := isMatch_eq_of_successive successive
    isMatch_iff := isMatch_iff_of_successive successive }

theorem Searched.isMatch_iff_found (searched : regexp.Searched line) :
    regexp.isMatch line = .ok (.ok true) ↔ regexp.foundIn line ≠ [] := by
  have empty : regexp.foundIn line = [] ↔ regexp.matchesIn line = [] := by
    rw [← List.map_eq_nil_iff, searched.found, List.map_eq_nil_iff]
  rw [searched.isMatch_eq, Ne, empty]
  cases regexp.matchesIn line <;> simp

/-- Those of some lines, which are numbered from `number` on, in which a regular expression matches,
with their numbers. -/
def matching (regexp : Regexp) (number : Nat) (lines : List (List Char)) :
    List (List Char × Nat) :=
  (lines.zipIdx number).filter fun (line, _) => regexp.isMatch ⟨line.toArray⟩ = .ok (.ok true)

theorem matching_cons (number : Nat) (line : List Char) (lines : List (List Char)) :
    regexp.matching number (line :: lines) =
      if regexp.isMatch ⟨line.toArray⟩ = .ok (.ok true) then
        (line, number) :: regexp.matching (number + 1) lines
      else regexp.matching (number + 1) lines := by
  rw [matching, List.zipIdx_cons, List.filter_cons]
  simp only [decide_eq_true_eq, matching]

/-- There are no matches in the lines that do not match. -/
theorem flatMap_matching {lines : List (List Char)}
    (searched : ∀ line ∈ lines, regexp.Searched ⟨line.toArray⟩)
    (write : List Char → Nat → Span → String) (number : Nat) :
    ((regexp.matching number lines).flatMap fun (line, number) =>
        (regexp.matchesIn ⟨line.toArray⟩).map (write line number)) =
      (lines.zipIdx number).flatMap fun (line, number) =>
        (regexp.matchesIn ⟨line.toArray⟩).map (write line number) := by
  induction lines generalizing number with
  | nil => rfl
  | cons line lines ih =>
      have rest := ih (fun line member => searched line (.tail _ member)) (number + 1)
      rw [matching_cons, List.zipIdx_cons, List.flatMap_cons, ← rest]
      split
      · rw [List.flatMap_cons]
      · next fails =>
          have agrees := (searched line (.head _)).isMatch_eq
          have empty : regexp.matchesIn ⟨line.toArray⟩ = [] := by
            simpa [agrees] using fails
          dsimp only
          rw [empty, List.map_nil, List.nil_append]

end Regexp

/-! ## Reports -/

namespace Report

variable {regexp : Regexp} {style : Style}

/-- What a report ends with, where `counted` lines had matches. -/
def closing (style : Style) (counted : Nat) : List String :=
  match style.detail with
  | .count => [style.pathLabel ++ toString counted]
  | _ => []

theorem ofLines_cons {number counted : Nat} {line : Subject} (rest : List Subject)
    (searched : regexp.Searched line) :
    ofLines style regexp number counted (line :: rest) =
      if regexp.isMatch line = .ok (.ok true) then
        (ofLines style regexp (number + 1) (counted + 1) rest).map fun report =>
          { report with
            lines := ofMatches style regexp number line (regexp.foundIn line) ++ report.lines }
      else ofLines style regexp (number + 1) counted rest := by
  have matched := searched.isMatch_iff_found
  rw [ofLines, searched.returns]
  cases found : regexp.foundIn line with
  | nil =>
      rw [if_neg (by simp [matched, found])]
      rfl
  | cons state states =>
      rw [if_pos (by simp [matched, found])]
      cases ofLines style regexp (number + 1) (counted + 1) rest <;> rfl

/-- The report on some lines consists of the reports on those that match. -/
theorem ofLines_of_searched {lines : List (List Char)}
    (searched : ∀ line ∈ lines, regexp.Searched ⟨line.toArray⟩) (number counted : Nat) :
    ofLines style regexp number counted (lines.map fun line => ⟨line.toArray⟩) =
      .ok ⟨((regexp.matching number lines).flatMap fun (line, number) =>
          ofMatches style regexp number ⟨line.toArray⟩ (regexp.foundIn ⟨line.toArray⟩)) ++
        closing style (counted + (regexp.matching number lines).length), none⟩ := by
  induction lines generalizing number counted with
  | nil =>
      rw [List.map_nil, ofLines, closing]
      split <;> simp_all [Regexp.matching]
  | cons line lines ih =>
      have rest := ih (fun line member => searched line (.tail _ member)) (number + 1)
      rw [List.map_cons, ofLines_cons _ (searched line (.head _)), Regexp.matching_cons]
      split
      · rw [rest, List.flatMap_cons, List.append_assoc, List.length_cons, Nat.add_right_comm,
          Nat.add_assoc]
        rfl
      · exact rest counted

theorem map_matchText {line : Subject} (searched : regexp.Searched line) (label : String) :
    ((regexp.foundIn line).map fun state => label ++ matchText line state) =
      (regexp.matchesIn line).map fun span => label ++ line.substring span.start span.stop := by
  let write (span? : Option Span) : String :=
    label ++ (span?.map fun span => line.substring span.start span.stop).getD ""
  calc (regexp.foundIn line).map (fun state => label ++ matchText line state)
      = ((regexp.foundIn line).map (·.span? 0)).map write := by
        rw [List.map_map]
        rfl
    _ = ((regexp.matchesIn line).map some).map write := by rw [searched.found]
    _ = (regexp.matchesIn line).map fun span => label ++ line.substring span.start span.stop := by
        rw [List.map_map]
        rfl

/-- What a report on a text says, as some options ask for it.

* `lines`: the lines that match, unaltered, each behind what comes before it.
* `count`: the number of those lines.
* `matchTexts`: the texts of all matches, line by line. -/
structure Exact (report : Report) (regexp : Regexp) (options : List Tool.SearchOption)
    (style : Style) (text : List Char) : Prop where
  error?_eq : report.error? = none
  lines : .count ∉ options → .groups ∉ options → .onlyMatching ∉ options →
    report.lines = (regexp.matching 1 (Lines.split text)).map fun (line, number) =>
      style.label number ++ String.ofList line
  count : .count ∈ options →
    report.lines =
      [style.pathLabel ++ toString (regexp.matching 1 (Lines.split text)).length]
  matchTexts : .count ∉ options → .groups ∉ options → .onlyMatching ∈ options →
    report.lines = ((Lines.split text).zipIdx 1).flatMap fun (line, number) =>
      (regexp.matchesIn ⟨line.toArray⟩).map fun span =>
        style.label number ++ Subject.substring ⟨line.toArray⟩ span.start span.stop

theorem ofText_exact_of_searched {text : List Char}
    (searched : ∀ line ∈ Lines.split text, regexp.Searched ⟨line.toArray⟩)
    {options : List Tool.SearchOption} (asked : style.detail = Tool.Search.detail options)
    (plain : style.mark = id) :
    ∃ report, ofText style regexp text = .ok report ∧ report.Exact regexp options style text := by
  have told : ofText style regexp text = .ok _ := ofLines_of_searched searched 1 0
  have member {entry : List Char × Nat}
      (inside : entry ∈ regexp.matching 1 (Lines.split text)) : entry.1 ∈ Lines.split text :=
    List.fst_mem_of_mem_zipIdx (List.mem_of_mem_filter inside)
  rw [Tool.Search.detail] at asked
  refine ⟨_, told, rfl, fun uncounted ungrouped whole => ?_, fun counted => ?_,
    fun uncounted ungrouped only => ?_⟩
  · have detail : style.detail = .lines := by simpa [uncounted, ungrouped, whole] using asked
    simp only [closing, detail, List.append_nil, ofMatches, plain]
    rw [List.map_eq_flatMap]
    refine List.flatMap_congr fun entry inside => ?_
    rw [(searched entry.1 (member inside)).restored]
    rfl
  · have detail : style.detail = .count := by simpa [counted] using asked
    simp [closing, ofMatches, detail]
  · have detail : style.detail = .matchTexts := by simpa [uncounted, ungrouped, only] using asked
    simp only [closing, detail, List.append_nil, ofMatches]
    rw [← Regexp.flatMap_matching searched fun line number span =>
      style.label number ++ Subject.substring ⟨line.toArray⟩ span.start span.stop]
    refine List.flatMap_congr fun entry inside => ?_
    exact map_matchText (searched entry.1 (member inside)) (style.label entry.2)

/-- The style of a search without colours. -/
def plainStyle (options : List Tool.SearchOption) (path? : Option String) (lineNumbers : Bool) :
    Style where
  detail := Tool.Search.detail options
  path? := path?
  lineNumbers := lineNumbers
  mark := id

end Report

end Backtracking
