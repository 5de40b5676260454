import DiagnosticRelay.CommandLine.Run
import DiagnosticRelay.Proofs.Text.Quoted

/-!
# What the position command prints

A placement is printed on seven lines, one for each field. Whatever its texts hold, no line is
broken, and the placement can be told from the lines: quoted texts and numbers are never the dash
that stands for a field which is not there. So two runs print the same exactly if they find the
same.
-/

namespace DiagnosticRelay.CommandLine

/-! ## Fields -/

/-- The texts of values differ from each other and from the dash that stands for no value, and each
of them stands on one line. -/
structure IsClear {α : Type} (text : α → String) : Prop where
  injective : Function.Injective text
  noDash : ∀ value, text value ≠ "-"
  noFeed : ∀ value, '\n' ∉ (text value).toList

theorem isClear_quote : IsClear Text.quote where
  injective := Text.quote_injective
  noDash text dash := by
    have first := Text.head?_quote text
    rw [dash] at first
    cases first
  noFeed := Text.lineFeed_not_mem_quote

theorem isDigit_of_mem_repr {n : Nat} {c : Char} (mem : c ∈ n.repr.toList) : c.isDigit = true := by
  rw [Nat.repr_eq_ofList_toDigits, String.toList_ofList] at mem
  exact Text.isDigit_of_mem_toDigits mem

theorem isClear_repr : IsClear Nat.repr where
  injective n n' same := by
    rw [Nat.repr_eq_ofList_toDigits, Nat.repr_eq_ofList_toDigits, String.ofList_inj] at same
    have values := congrArg (Text.digitsValue 10) same
    rw [Text.digitsValue_toDigits, Text.digitsValue_toDigits] at values
    exact values
  noDash n dash := by
    have digit : ('-').isDigit = true := isDigit_of_mem_repr (n := n) (by rw [dash]; decide)
    cases digit
  noFeed n feed := by
    cases isDigit_of_mem_repr feed

variable {α : Type} {text : α → String}

/-- What is shown tells whether there is a value, and which one. -/
theorem IsClear.shown_injective (clear : IsClear text) : Function.Injective (shown text) := by
  intro value? value'? same
  match value?, value'? with
  | none, none => rfl
  | none, some value => exact absurd same.symm (clear.noDash value)
  | some value, none => exact absurd same (clear.noDash value)
  | some value, some value' => rw [clear.injective same]

theorem IsClear.lineFeed_not_mem_shown (clear : IsClear text) (value? : Option α) :
    '\n' ∉ (shown text value?).toList := by
  cases value? with
  | none => exact (by decide : '\n' ∉ "-".toList)
  | some value => exact clear.noFeed value

/-! ## Lines -/

/-- The lines of a listing, without their line feeds. -/
def listedLines (placement : Placement) : List String :=
  ["source_file:   " ++ shown Text.quote placement.file?,
    "source_path:   " ++ shown Text.quote placement.path?,
    "line:          " ++ shown Nat.repr placement.line?,
    "line_content:  " ++ shown Text.quote placement.lineText?,
    "offset:        " ++ shown Nat.repr placement.offset?,
    "pointer:       " ++ shown Nat.repr placement.column?,
    "pointer_space: " ++ shown Text.quote placement.alignment?]

theorem listing_eq (placement : Placement) :
    listing placement = String.join ((listedLines placement).map (· ++ "\n")) := by
  simp only [listedLines, List.map_cons, List.map_nil, String.join_cons, String.join_nil,
    String.append_empty, ← String.append_assoc]
  unfold listing
  simp only [← String.append_assoc]
  rfl

/-- Whatever the fields hold, no line of a listing is broken. -/
theorem lineFeed_not_mem_listedLines (placement : Placement) :
    ∀ line ∈ listedLines placement, '\n' ∉ line.toList := by
  have quoted := isClear_quote.lineFeed_not_mem_shown
  have number := isClear_repr.lineFeed_not_mem_shown
  simp [listedLines, quoted, number]

theorem listedLines_injective : Function.Injective listedLines := by
  intro placement placement' same
  obtain ⟨file, path, line, lineText, offset, column, alignment⟩ := placement
  obtain ⟨file', path', line', lineText', offset', column', alignment'⟩ := placement'
  simp only [listedLines, List.cons.injEq, String.append_right_inj, and_true] at same
  obtain ⟨file, path, line, lineText, offset, column, alignment⟩ := same
  rw [isClear_quote.shown_injective file, isClear_quote.shown_injective path,
    isClear_repr.shown_injective line, isClear_quote.shown_injective lineText,
    isClear_repr.shown_injective offset, isClear_repr.shown_injective column,
    isClear_quote.shown_injective alignment]

/-- A text of whole lines is cut into them at its line feeds, and nothing follows the last one. -/
theorem splitOn_join {lines : List String} (whole : ∀ line ∈ lines, '\n' ∉ line.toList) :
    (String.join (lines.map (· ++ "\n"))).toList.splitOn '\n' =
      lines.map String.toList ++ [[]] := by
  induction lines with
  | nil => rfl
  | cons line rest ih =>
    obtain ⟨first, others⟩ := List.forall_mem_cons.mp whole
    have cut : (String.join ((line :: rest).map (· ++ "\n"))).toList =
        line.toList ++ '\n' :: (String.join (rest.map (· ++ "\n"))).toList := by
      simp [String.join_cons]
    rw [cut, List.splitOn_append_cons_self_of_not_mem first, ih others]
    rfl

theorem listing_injective : Function.Injective listing := by
  intro placement placement' same
  have lines := congrArg (fun text => text.toList.splitOn '\n') same
  simp only [listing_eq, splitOn_join (lineFeed_not_mem_listedLines _),
    List.append_cancel_right_eq] at lines
  apply listedLines_injective
  exact List.map_injective_iff.mpr (fun _ _ => String.toList_inj.mp) lines

/-! ## Runs -/

/-- Digits alone are read as the number that they stand for. -/
theorem offset?_of_digits {text : String} (nonempty : text.toList ≠ [])
    (digits : ∀ c ∈ text.toList, c.isDigit = true)
    (bound : Text.digitsValue 10 text.toList < 2 ^ 64) :
    offset? text = some (Text.digitsValue 10 text.toList) := by
  have all : text.toList.all (Text.isDigit 10) = true := by
    simpa [Text.isDigit_ten] using digits
  have accepted : (text.toList.isEmpty || !text.toList.all (Text.isDigit 10)) = false := by
    simp [all, nonempty]
  unfold offset?
  split
  · rename_i sign
    cases digits '+' (by rw [sign]; exact List.mem_cons_self)
  · simp only [accepted]
    exact if_pos bound

theorem offset?_repr {n : Nat} (bound : n < 2 ^ 64) : offset? n.repr = some n := by
  have written : n.repr.toList = Nat.toDigits 10 n := by
    rw [Nat.repr_eq_ofList_toDigits, String.toList_ofList]
  have value : Text.digitsValue 10 n.repr.toList = n := by
    rw [written, Text.digitsValue_toDigits]
  rw [offset?_of_digits, value]
  · rw [written]
    exact Nat.toDigits_ne_nil
  · exact fun _ => isDigit_of_mem_repr
  · rw [value]
    exact bound

/-- Every path and every offset can be asked for. -/
theorem parse_position {path : String} {offset : Nat} (named : path ≠ "")
    (bound : offset < 2 ^ 64) :
    Command.parse ["position", "--", path, offset.repr] = .ok (.position path offset) := by
  have items : Item.ofArguments ["--", path, offset.repr] =
      .ok [.plain path, .plain offset.repr] := by
    rw [Item.ofArguments, if_pos rfl]
    rfl
  have noVersion : asksForVersion "position" = false := by decide
  have command : positionOf [.plain path, .plain offset.repr] = .ok (.position path offset) := by
    simp [positionOf, named, offset?_repr bound]
  rw [Command.parse, noVersion, items]
  exact command

theorem run_of_position {files : Files} {arguments : List String} {path content : String}
    {offset : Nat} (parsed : Command.parse arguments = .ok (.position path offset))
    (readable : (files path).bind String.fromUTF8? = some content) :
    let source := SourceText.source ⟨path, .disk, content⟩
    run files arguments = { printed := listing (.ofLocation (.within source offset)) } := by
  rw [run, parsed]
  simp only [Command.run, loadSource, readable]

/-- To ask for a position in a source that can be read succeeds and prints seven whole lines,
whatever the path and the text of the source hold. What is printed tells the placement: another run
prints the same exactly if its placement is the same in every field. -/
theorem run_position {files : Files} {path content : String} {offset : Nat}
    (readable : (files path).bind String.fromUTF8? = some content) :
    let source := SourceText.source ⟨path, .disk, content⟩
    let placement := Placement.ofLocation (.within source offset)
    (path ≠ "" → offset < 2 ^ 64 →
      Command.parse ["position", "--", path, offset.repr] = .ok (.position path offset)) ∧
    (listedLines placement).length = 7 ∧ (∀ line ∈ listedLines placement, '\n' ∉ line.toList) ∧
    ∀ arguments, Command.parse arguments = .ok (.position path offset) →
      (run files arguments).exitCode = 0 ∧
      (run files arguments).printed = String.join ((listedLines placement).map (· ++ "\n")) ∧
      ∀ (files' : Files) (arguments' : List String) (path' content' : String) (offset' : Nat),
        Command.parse arguments' = .ok (.position path' offset') →
        (files' path').bind String.fromUTF8? = some content' →
        ((run files' arguments').printed = (run files arguments).printed ↔
          Placement.ofLocation (.within (SourceText.source ⟨path', .disk, content'⟩) offset') =
            placement) := by
  intro source placement
  refine ⟨parse_position, rfl, lineFeed_not_mem_listedLines placement, ?_⟩
  intro arguments parsed
  rw [run_of_position parsed readable]
  refine ⟨rfl, listing_eq placement, ?_⟩
  intro files' arguments' path' content' offset' parsed' readable'
  rw [run_of_position parsed' readable']
  exact listing_injective.eq_iff

theorem run_position_broken_path :
    let files : Files := fun path => if path = "a\n\"" then some "x\\\n".toUTF8 else none
    (run files ["position", "--", "a\n\"", "1"]).exitCode = 0 ∧
      (run files ["position", "--", "a\n\"", "1"]).printed ≠
        (run files ["position", "--", "a\n\"", "7"]).printed := by
  intro files
  have readable : (files "a\n\"").bind String.fromUTF8? = some "x\\\n" := by decide +kernel
  have first : Command.parse ["position", "--", "a\n\"", "1"] = .ok (.position "a\n\"" 1) := by
    decide +kernel
  have second : Command.parse ["position", "--", "a\n\"", "7"] = .ok (.position "a\n\"" 7) := by
    decide +kernel
  obtain ⟨exit, -, told⟩ := (run_position readable).2.2.2 _ first
  refine ⟨exit, fun same => ?_⟩
  have placements := congrArg Placement.offset? ((told _ _ _ _ _ second readable).mp same.symm)
  cases placements

end DiagnosticRelay.CommandLine
