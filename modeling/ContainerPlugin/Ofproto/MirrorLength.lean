import ContainerPlugin.Ofproto.CommandLength
import ContainerPlugin.Ofproto.MirrorErrors

/-!
# The command that creates a mirror

`mirror_set` prints the command piece by piece and keeps the offset in an `int`. Nothing looks at the
offset before the last piece of the selections is printed, and then the space that is left is
compared with two lengths only. The names come from bundles that the settings may lack.
-/

namespace ContainerPlugin.Ofproto

/-- A piece of the selections. A comma goes before it, if there is room for the comma. -/
structure MirrorPiece where
  comma : Bool
  text : String

def MirrorPiece.strings (piece : MirrorPiece) : List String :=
  if piece.comma then [",", piece.text] else [piece.text]

/-- One `snprintf`, with the comma that may have to be written before. -/
def appendPiece (text : String) (piece : MirrorPiece) : Except Fault String :=
  appendText (if piece.comma = true ∧ strlen text < maxCmdLen then text ++ "," else text) piece.text

/-- The names of one selection. -/
def namePieces : List String → List MirrorPiece
  | [] => []
  | name :: names => ⟨false, name⟩ :: names.map (⟨true, ·⟩)

def portPieces (mirror id column : String) (names : List String) : List MirrorPiece :=
  if names = [] then []
  else
    (names.map fun n => ⟨false, " -- --id=@" ++ id ++ n ++ " get port " ++ n⟩) ++
      ⟨false, " -- set mirror " ++ mirror ++ " " ++ column ++ "="⟩ ::
        namePieces (names.map fun n => "@" ++ id ++ n)

/-- Everything between the head of the command and the output port. -/
def mirrorPieces (mirror : String) (srcs dsts : List String) : List MirrorPiece :=
  portPieces mirror "srx" "select-src-port" srcs ++ portPieces mirror "stx" "select-dst-port" dsts

/-- The text of the command up to some piece. -/
def piecesText (text : String) (pieces : List MirrorPiece) : String :=
  printed text (pieces.flatMap MirrorPiece.strings)

/-! ## The offsets in C -/

def intMax : ℤ := 2 ^ 31 - 1

/-- `snprintf` returns the length of the whole piece, or a negative number if that is no `int`. -/
def snprintfResult (piece : String) : ℤ :=
  if (strlen piece : ℤ) ≤ intMax then strlen piece else -1

def addInt (a b : ℤ) : ℤ := Int.bmod (a + b) (2 ^ 32)

/-- The conversion of an `int` to `size_t`. -/
def toSizeT (n : ℤ) : ℕ := (n % 2 ^ 64).toNat

/-- `n` when `snprintf` is called for a piece. -/
def pieceOffset (n : ℤ) (piece : MirrorPiece) : ℤ :=
  if piece.comma = true ∧ 0 < (maxCmdLen : ℤ) - n then addInt n 1 else n

def nextOffset (n : ℤ) (piece : MirrorPiece) : ℤ :=
  addInt (pieceOffset n piece) (snprintfResult piece.text)

def pieceOffsets (n : ℤ) : List MirrorPiece → List ℤ
  | [] => []
  | piece :: pieces => pieceOffset n piece :: pieceOffsets (nextOffset n piece) pieces

/-- The test of the remaining space, in C: an `int` is compared with a `size_t`, and two strings in
memory are never too long for that. -/
def spaceExceeded (n : ℤ) (out mirror : String) : Bool :=
  toSizeT (maxCmdLen - n) < strlen out + strlen mirror

/-- `n` at every `snprintf` after the head that is run. -/
def createOffsets (row : MirrorRow) : List ℤ :=
  let head := snprintfResult (createMirrorHead row.name)
  let pieces := mirrorPieces row.name row.srcs row.dsts
  let n := pieces.foldl nextOffset head
  pieceOffsets head pieces ++
    match row.out with
    | none => []
    | some out =>
      if spaceExceeded n out row.name then []
      else pieceOffsets n ((outputPieces row.name (some out)).map (⟨false, ·⟩))

section Pieces

variable {text mirror id column : String} {pieces : List MirrorPiece}

theorem piecesText_cons (text : String) (piece : MirrorPiece) (pieces : List MirrorPiece) :
    piecesText text (piece :: pieces) = piecesText (printed text piece.strings) pieces := by
  simp [piecesText, printed]

theorem piecesText_append (text : String) (pieces pieces' : List MirrorPiece) :
    piecesText text (pieces ++ pieces') = piecesText (piecesText text pieces) pieces' := by
  simp [piecesText, printed]

theorem strlen_le_piecesText (text : String) (pieces : List MirrorPiece) :
    strlen text ≤ strlen (piecesText text pieces) := strlen_printed_le _ _

theorem namePieces_strings (names : List String) :
    (namePieces names).flatMap MirrorPiece.strings = names.intersperse "," := by
  cases names with
  | nil => rfl
  | cons name names =>
    induction names generalizing name with
    | nil => rfl
    | cons name' names ih =>
      have htail := ih name'
      simp only [namePieces, List.map_cons, List.flatMap_cons, MirrorPiece.strings,
        List.intersperse_cons_cons] at htail ⊢
      simpa using htail

theorem portPieces_strings (mirror id column : String) (names : List String) :
    (portPieces mirror id column names).flatMap MirrorPiece.strings =
      selectPieces mirror id column names := by
  rw [portPieces, selectPieces]
  split
  · rfl
  · rw [List.flatMap_append, List.flatMap_cons, namePieces_strings, List.flatMap_map]
    simp [MirrorPiece.strings, List.map_eq_flatMap]

theorem text_createMirror (row : MirrorRow) : (Cmd.createMirror row).text =
    printed (piecesText (createMirrorHead row.name) (mirrorPieces row.name row.srcs row.dsts))
      (outputPieces row.name row.out) := by
  rw [Cmd.text, MirrorRow.pieces, ← portPieces_strings, ← portPieces_strings,
    ← List.flatMap_append, piecesText, mirrorPieces]
  simp [printed]

/-! ## Printing -/

theorem appendPiece_of_not_comma (text piece : String) :
    appendPiece text ⟨false, piece⟩ = appendText text piece := by
  simp [appendPiece]

theorem appendNames_eq (text : String) (names : List String) :
    appendNames text names = (namePieces names).foldlM appendPiece text := by
  cases names with
  | nil => rfl
  | cons name names =>
    rw [appendNames, namePieces, List.foldlM_cons, appendPiece_of_not_comma]
    congr 1
    funext text
    rw [List.foldlM_map]
    simp [appendPiece]

theorem appendSelect_eq (text mirror id column : String) (names : List String) :
    appendSelect text mirror id column names =
      (portPieces mirror id column names).foldlM appendPiece text := by
  rw [appendSelect, portPieces]
  split
  · rfl
  · rw [List.foldlM_append, List.foldlM_map, List.foldlM_map]
    simp only [appendPiece_of_not_comma, appendNames_eq, List.foldlM_cons]

/-- What is known of a text that has been printed: it is whole, or a comma was left out and the text
has outgrown the buffer. The offset of the last piece was inside of it. -/
structure PiecesPrinted (text : String) (pieces : List MirrorPiece) (text' : String) : Prop where
  last : pieces ≠ [] → strlen (piecesText text pieces.dropLast) ≤ maxCmdLen
  whole : text' = piecesText text pieces ∨
    maxCmdLen < strlen text' ∧ maxCmdLen < strlen (piecesText text pieces)

theorem appendPiece_ensures (text : String) {piece : MirrorPiece} (hpiece : 0 < strlen piece.text) :
    (appendPiece text piece).Ensures (fun e => e = .cmdOverflow ∧ maxCmdLen < strlen text)
      fun text' => strlen text ≤ maxCmdLen ∧ (text' = printed text piece.strings ∨
        maxCmdLen < strlen text' ∧ maxCmdLen < strlen (printed text piece.strings)) := by
  obtain ⟨comma, piece⟩ := piece
  cases comma with
  | false =>
    rw [appendPiece_of_not_comma, appendText]
    split
    · exact ⟨‹_›, .inl rfl⟩
    · exact ⟨rfl, by omega⟩
  | true =>
    have hcomma : strlen (text ++ ",") = strlen text + 1 := strlen_append text ","
    have hlength : strlen (printed text (MirrorPiece.strings ⟨true, piece⟩)) =
        strlen (text ++ ",") + strlen piece := strlen_append (text ++ ",") piece
    simp only [appendPiece, true_and]
    split
    · rw [appendText, if_pos (by omega)]
      exact ⟨by omega, .inl rfl⟩
    · rw [appendText]
      split
      · refine ⟨‹_›, .inr ⟨?_, by omega⟩⟩
        rw [strlen_append]
        dsimp only at hpiece
        omega
      · exact ⟨rfl, by omega⟩

/-- The selections are printed, unless the last piece starts past the end of the buffer. -/
theorem foldlM_appendPiece_ensures (hpieces : ∀ piece ∈ pieces, 0 < strlen piece.text) :
    (pieces.foldlM appendPiece text).Ensures
      (fun e => e = .cmdOverflow ∧ pieces ≠ [] ∧
        maxCmdLen < strlen (piecesText text pieces.dropLast))
      (PiecesPrinted text pieces) := by
  induction pieces generalizing text with
  | nil => exact ⟨fun hne => absurd rfl hne, .inl rfl⟩
  | cons piece pieces ih =>
    obtain ⟨hpiece, hrest⟩ := List.forall_mem_cons.mp hpieces
    have hfirst := appendPiece_ensures text hpiece
    rw [List.foldlM_cons]
    cases happend : appendPiece text piece with
    | error e =>
      rw [happend, Except.ensures_error] at hfirst
      exact ⟨hfirst.1, List.cons_ne_nil _ _, lt_of_lt_of_le hfirst.2 (strlen_le_piecesText _ _)⟩
    | ok text₁ =>
      rw [happend, Except.ensures_ok] at hfirst
      rw [Except.ok_bind]
      obtain ⟨htext, hwhole⟩ := hfirst
      by_cases hnil : pieces = []
      · subst hnil
        refine ⟨fun _ => htext, ?_⟩
        rw [piecesText_cons]
        exact hwhole
      have hlast : (piece :: pieces).dropLast = piece :: pieces.dropLast :=
        List.dropLast_cons_of_ne_nil hnil
      rcases hwhole with rfl | ⟨hlong, hlong'⟩
      · -- nothing is left out so far
        refine ((ih hrest).mono fun text' h => ?_).monoError fun e h => ?_
        · refine ⟨fun _ => ?_, ?_⟩
          · rw [hlast, piecesText_cons]
            exact h.last hnil
          · rw [piecesText_cons]
            exact h.whole
        · rw [hlast, piecesText_cons]
          exact ⟨h.1, List.cons_ne_nil _ _, h.2.2⟩
      · -- the comma was left out at the very end of the buffer: there is no room for another piece
        refine ((ih hrest).mono fun text' h => ?_).monoError fun e h => ?_
        · exact absurd (le_trans (strlen_le_piecesText text₁ _) (h.last hnil)) (by omega)
        · rw [hlast, piecesText_cons]
          exact ⟨h.1, List.cons_ne_nil _ _, lt_of_lt_of_le hlong' (strlen_le_piecesText _ _)⟩

theorem strlen_piecesText_dropLast (text : String) (pieces : List MirrorPiece) :
    strlen (piecesText text pieces.dropLast) ≤ strlen (piecesText text pieces) := by
  cases hlast : pieces.getLast? with
  | none =>
    rw [List.getLast?_eq_none_iff.mp hlast]
    exact le_rfl
  | some piece =>
    have hsplit : pieces = pieces.dropLast ++ [piece] := by
      rw [List.dropLast_append_getLast? piece hlast]
    conv_rhs => rw [hsplit, piecesText_append]
    exact strlen_le_piecesText _ _

/-- There is room for all the pieces. -/
theorem foldlM_appendPiece (hpieces : ∀ piece ∈ pieces, 0 < strlen piece.text)
    (hroom : strlen (piecesText text pieces) ≤ maxCmdLen) :
    pieces.foldlM appendPiece text = .ok (piecesText text pieces) := by
  have hdrop := strlen_piecesText_dropLast text pieces
  have hprint : (pieces.foldlM appendPiece text).Ensures _ _ := foldlM_appendPiece_ensures hpieces
  cases hres : pieces.foldlM appendPiece text with
  | error e =>
    rw [hres, Except.ensures_error] at hprint
    omega
  | ok text' =>
    rw [hres, Except.ensures_ok] at hprint
    rcases hprint.whole with rfl | h
    · rfl
    · omega

theorem text_mem_of_mem_namePieces {names : List String} {piece : MirrorPiece}
    (h : piece ∈ namePieces names) : piece.text ∈ names := by
  cases names with
  | nil => cases h
  | cons name names =>
    rcases List.mem_cons.mp h with rfl | h
    · exact List.mem_cons_self
    · obtain ⟨n, hn, rfl⟩ := List.mem_map.mp h
      exact List.mem_cons_of_mem _ hn

theorem strlen_portPieces {mirror id column : String} {names : List String} {piece : MirrorPiece}
    (h : piece ∈ portPieces mirror id column names) : 0 < strlen piece.text := by
  rw [portPieces] at h
  split at h
  · cases h
  · rcases List.mem_append.mp h with h | h
    · obtain ⟨n, -, rfl⟩ := List.mem_map.mp h
      simp only [strlen_append]
      have hget : 0 < strlen " get port " := by decide
      omega
    · rcases List.mem_cons.mp h with rfl | h
      · simp only [strlen_append]
        have hset : 0 < strlen " -- set mirror " := by decide
        omega
      · obtain ⟨n, -, hn⟩ := List.mem_map.mp (text_mem_of_mem_namePieces h)
        rw [← hn]
        simp only [strlen_append]
        have hat : 0 < strlen "@" := by decide
        omega

theorem strlen_mirrorPieces (mirror : String) (srcs dsts : List String) :
    ∀ piece ∈ mirrorPieces mirror srcs dsts, 0 < strlen piece.text := by
  intro piece hpiece
  rcases List.mem_append.mp hpiece with h | h
  · exact strlen_portPieces h
  · exact strlen_portPieces h

/-! ## The offsets in C are the lengths -/

theorem addInt_eq {a b : ℤ} (h : 0 ≤ a + b) (h' : a + b ≤ maxCmdLen) : addInt a b = a + b := by
  rw [maxCmdLen] at h'
  rw [addInt, Int.bmod]
  omega

theorem snprintfResult_eq {piece : String} (h : strlen piece ≤ maxCmdLen) :
    snprintfResult piece = strlen piece := by
  rw [maxCmdLen] at h
  rw [snprintfResult, if_pos]
  rw [intMax]
  omega

theorem nextOffset_eq {piece : MirrorPiece}
    (h : strlen (printed text piece.strings) ≤ maxCmdLen) :
    pieceOffset (strlen text) piece ≤ maxCmdLen ∧
      nextOffset (strlen text) piece = strlen (printed text piece.strings) := by
  obtain ⟨comma, piece⟩ := piece
  cases comma with
  | false =>
    have hlength : strlen (printed text (MirrorPiece.strings ⟨false, piece⟩)) =
        strlen text + strlen piece := strlen_append text piece
    have hoffset : pieceOffset (strlen text) ⟨false, piece⟩ = strlen text := by simp [pieceOffset]
    have hresult : snprintfResult piece = strlen piece := snprintfResult_eq (by omega)
    simp only [nextOffset, hoffset, hresult]
    rw [addInt_eq (by omega) (by omega)]
    omega
  | true =>
    have hcomma : strlen (text ++ ",") = strlen text + 1 := strlen_append text ","
    have hlength : strlen (printed text (MirrorPiece.strings ⟨true, piece⟩)) =
        strlen (text ++ ",") + strlen piece := strlen_append (text ++ ",") piece
    have hoffset : pieceOffset (strlen text) ⟨true, piece⟩ = strlen text + 1 := by
      rw [pieceOffset, if_pos ⟨rfl, by omega⟩, addInt_eq (by omega) (by omega)]
    have hresult : snprintfResult piece = strlen piece := snprintfResult_eq (by omega)
    simp only [nextOffset, hoffset, hresult]
    rw [addInt_eq (by omega) (by omega)]
    omega

theorem pieceOffsets_le (hroom : strlen (piecesText text pieces) ≤ maxCmdLen) :
    (∀ n ∈ pieceOffsets (strlen text) pieces, n ≤ maxCmdLen) ∧
      pieces.foldl nextOffset (strlen text) = strlen (piecesText text pieces) := by
  induction pieces generalizing text with
  | nil => exact ⟨fun _ hn => (nomatch hn), rfl⟩
  | cons piece pieces ih =>
    rw [piecesText_cons] at hroom ⊢
    obtain ⟨hoffset, hnext⟩ := nextOffset_eq (le_trans (strlen_le_piecesText _ pieces) hroom)
    rw [pieceOffsets, List.foldl_cons, hnext]
    exact ⟨List.forall_mem_cons.mpr ⟨hoffset, (ih hroom).1⟩, (ih hroom).2⟩

end Pieces

/-! ## `create mirror` -/

/-- The command up to the output port. -/
def MirrorRow.selected (row : MirrorRow) : String :=
  piecesText (createMirrorHead row.name) (mirrorPieces row.name row.srcs row.dsts)

/-- The bundles of a selection exist, and `row` has their names. -/
structure State.MirrorNames (s : State) (sel : MirrorSelection) (row : MirrorRow) : Prop where
  srcs : s.bundleNames sel.srcs = .ok row.srcs
  dsts : s.bundleNames sel.dsts = .ok row.dsts
  out : row.out = sel.outBundle.map fun q => (s.bundle q).name
  live : ∀ q ∈ sel.outBundle, q ∈ s.bundles

/-- The state and the result of the command that creates a mirror. -/
def mirrorCreated (env : Env) (s : State) (row : MirrorRow) : State × Rc :=
  ({ s with world := (s.world.system env (.createMirror row)).1 },
    if (s.world.system env (.createMirror row)).2 then .ok
    else .errno (env.errno s.world.log (.createMirror row)))

/-- The state in which `mirror_set` builds the command. -/
def MirrorSlot.prepared (env : Env) (slot : MirrorSlot) (sel : MirrorSelection) : State :=
  mirrorPrepare env slot.state slot.idx slot.mirror slot.modify sel

/-- No `snprintf` is given an offset past the end of the buffer, a command that is too long is
reported and not run, and any other is run as a whole. A mirror that cannot be created is given up. -/
structure MirrorCommandChecked (env : Env) (s : State) (aux : Ptr) (settings : OfprotoMirrorSettings)
    (prepared : State) (row : MirrorRow) : Prop where
  offsets : ∀ n ∈ createOffsets row, n ≤ maxCmdLen ∧ 0 ≤ (maxCmdLen : ℤ) - n
  tooLong : ¬ (Cmd.createMirror row).Fits →
    mirrorSet env s aux (some settings) = .ok (prepared.mirrorDestroy aux, .emsgsize)
  whole : (Cmd.createMirror row).Fits → mirrorSet env s aux (some settings) =
    if (prepared.world.system env (.createMirror row)).2 then .ok (mirrorCreated env prepared row)
    else .ok ((mirrorCreated env prepared row).1.mirrorDestroy aux,
      .errno (env.errno prepared.world.log (.createMirror row)))

/-- There is an output, and the command is whole, or the space that is left is found too small for
the names of the output and the mirror. -/
def MirrorRow.Checked (row : MirrorRow) : Prop :=
  ∃ out, row.out = some out ∧ ((Cmd.createMirror row).Fits ∨
    strlen row.selected ≤ maxCmdLen ∧
      maxCmdLen < strlen row.selected + strlen out + strlen row.name)

section Create

variable {env : Env} {s s' : State} {aux : Ptr} {out : String} {row : MirrorRow}
  {sel : MirrorSelection} {slot : MirrorSlot} {settings : OfprotoMirrorSettings}

theorem strlen_outputPieces (text mirror out : String) :
    strlen (printed text (outputPieces mirror (some out))) =
      strlen text + strlen out + strlen mirror + 56 := by
  have hget : strlen " -- --id=@out get port " = 23 := rfl
  have hset : strlen " -- set mirror " = 15 := rfl
  have hcolumn : strlen " output-port=@out " = 18 := rfl
  simp only [outputPieces, printed, List.foldl_cons, List.foldl_nil, strlen_append, hget, hset,
    hcolumn]
  omega

theorem foldlM_appendText_overflow (text : String) (pieces : List String) :
    (pieces.foldlM appendText text).Ensures (· = .cmdOverflow) fun _ => True := by
  refine Except.Ensures.foldlM (I := fun _ _ => True) (fun piece _ text _ => ?_) trivial
  rw [appendText]
  split
  · trivial
  · rfl

theorem fits_createMirror_iff (hout : row.out = some out) : (Cmd.createMirror row).Fits ↔
    strlen row.selected + strlen out + strlen row.name + 56 < maxCmdLen := by
  rw [Cmd.Fits, text_createMirror, hout, strlen_outputPieces, MirrorRow.selected]

theorem State.MirrorFrame.mirrorNames (h : s.MirrorFrame s') (hnames : s.MirrorNames sel row) :
    s'.MirrorNames sel row := by
  have hbundles : ∀ bundles, s'.bundleNames bundles = s.bundleNames bundles := by
    intro bundles
    simp only [State.bundleNames, State.derefBundle, h.bundles, h.bundle]
  refine ⟨(hbundles _).trans hnames.srcs, (hbundles _).trans hnames.dsts, ?_, ?_⟩
  · rw [hnames.out, h.bundle]
  · rw [h.bundles]
    exact hnames.live

/-- Once the names are known the command is printed, tested and run. -/
theorem State.MirrorNames.mirrorCreate_eq (hnames : s.MirrorNames sel row) :
    mirrorCreate env s row.name sel =
      ((mirrorPieces row.name row.srcs row.dsts).foldlM appendPiece (createMirrorHead row.name) >>=
        fun text => match row.out with
        | none => .error .nullDeref
        | some out =>
          if mirrorCmdExceeds text out row.name then .ok (s, .emsgsize)
          else (outputPieces row.name (some out)).foldlM appendText text >>= fun _ =>
            .ok (mirrorCreated env s row)) := by
  rw [mirrorCreate, hnames.srcs, hnames.dsts, mirrorPieces, List.foldlM_append, bind_assoc]
  simp only [Except.ok_bind, appendSelect_eq]
  congr 1
  funext text
  congr 1
  funext text'
  have hrowOut := hnames.out
  cases hout : sel.outBundle with
  | none =>
    rw [hout, Option.map_none] at hrowOut
    rw [hrowOut]
  | some q =>
    have hderef : s.derefBundle q = .ok (s.bundle q) := if_pos (hnames.live q hout)
    rw [hout, Option.map_some] at hrowOut
    have hrow : (⟨row.name, row.srcs, row.dsts, some (s.bundle q).name⟩ : MirrorRow) = row := by
      rw [← hrowOut]
    rw [hrowOut]
    simp only [hderef, Except.ok_bind, hrow]
    rfl

theorem foldlM_mirrorPieces (h : strlen row.selected ≤ maxCmdLen) :
    (mirrorPieces row.name row.srcs row.dsts).foldlM appendPiece (createMirrorHead row.name) =
      .ok row.selected :=
  foldlM_appendPiece (strlen_mirrorPieces _ _ _) h

theorem State.MirrorNames.mirrorCreate_of_fits (hnames : s.MirrorNames sel row)
    (hout : row.out = some out) (hfits : (Cmd.createMirror row).Fits) :
    mirrorCreate env s row.name sel = .ok (mirrorCreated env s row) := by
  rw [fits_createMirror_iff hout] at hfits
  have hselected : strlen row.selected ≤ maxCmdLen := by omega
  have hexceeds : mirrorCmdExceeds row.selected out row.name = false := by
    rw [mirrorCmdExceeds, decide_eq_false_iff_not]
    omega
  have houtput : strlen (printed row.selected (outputPieces row.name (some out))) ≤ maxCmdLen := by
    rw [strlen_outputPieces]
    omega
  rw [hnames.mirrorCreate_eq, foldlM_mirrorPieces hselected, Except.ok_bind, hout]
  simp only [hexceeds, foldlM_appendText houtput, Except.ok_bind, Bool.false_eq_true, if_false]

theorem State.MirrorNames.mirrorCreate_of_exceeds (hnames : s.MirrorNames sel row)
    (hout : row.out = some out) (hselected : strlen row.selected ≤ maxCmdLen)
    (hspace : maxCmdLen < strlen row.selected + strlen out + strlen row.name) :
    mirrorCreate env s row.name sel = .ok (s, .emsgsize) := by
  have hexceeds : mirrorCmdExceeds row.selected out row.name = true := by
    rw [mirrorCmdExceeds, decide_eq_true_eq]
    omega
  rw [hnames.mirrorCreate_eq, foldlM_mirrorPieces hselected, Except.ok_bind, hout]
  simp only [hexceeds, if_true]

/-- The command is not found too long. Either a piece starts past the end of the buffer, or a command
is run. -/
theorem State.MirrorNames.mirrorCreate_of_room (hnames : s.MirrorNames sel row)
    (hout : row.out = some out) (hspace : strlen row.selected ≤ maxCmdLen →
      strlen row.selected + strlen out + strlen row.name ≤ maxCmdLen) :
    (mirrorCreate env s row.name sel).Ensures (· = .cmdOverflow)
      fun r => r = mirrorCreated env s row := by
  rw [hnames.mirrorCreate_eq]
  have hpieces : ((mirrorPieces row.name row.srcs row.dsts).foldlM appendPiece
      (createMirrorHead row.name)).Ensures _ _ := foldlM_appendPiece_ensures (strlen_mirrorPieces _ _ _)
  refine (hpieces.monoError fun _ he => he.1).bind fun text htext => ?_
  have hexceeds : mirrorCmdExceeds text out row.name = false := by
    rw [mirrorCmdExceeds, decide_eq_false_iff_not]
    rcases htext.whole with rfl | hlong
    · have hspace' : strlen row.selected ≤ maxCmdLen → _ := hspace
      rw [MirrorRow.selected] at hspace'
      omega
    · omega
  simp only [hout, hexceeds, Bool.false_eq_true, if_false]
  exact (foldlM_appendText_overflow text _).bind fun _ _ => rfl

/-- A missing output is read for the length of its name. -/
theorem State.MirrorNames.mirrorCreate_of_no_output (hnames : s.MirrorNames sel row)
    (hout : row.out = none) : ∃ e, mirrorCreate env s row.name sel = .error e := by
  rw [hnames.mirrorCreate_eq, hout]
  cases (mirrorPieces row.name row.srcs row.dsts).foldlM appendPiece (createMirrorHead row.name) with
  | error e => exact ⟨e, rfl⟩
  | ok text => exact ⟨.nullDeref, rfl⟩

theorem createOffsets_le (h : row.Checked) : ∀ n ∈ createOffsets row, n ≤ maxCmdLen := by
  obtain ⟨out, hout, hcases⟩ := h
  have hselected : strlen row.selected ≤ maxCmdLen := by
    rcases hcases with hfits | h
    · rw [fits_createMirror_iff hout] at hfits
      omega
    · exact h.1
  have hhead : snprintfResult (createMirrorHead row.name) = strlen (createMirrorHead row.name) :=
    snprintfResult_eq (le_trans (strlen_le_piecesText _ _) hselected)
  obtain ⟨hpieces, hn⟩ := pieceOffsets_le hselected
  rw [createOffsets, hhead, hout]
  dsimp only
  rw [hn]
  refine List.forall_mem_append.mpr ⟨hpieces, ?_⟩
  split
  · nofun
  · rename_i hspace
    rcases hcases with hfits | h
    · have htext : piecesText row.selected ((outputPieces row.name (some out)).map (⟨false, ·⟩)) =
          printed row.selected (outputPieces row.name (some out)) := rfl
      have hroom : strlen (piecesText row.selected
          ((outputPieces row.name (some out)).map (⟨false, ·⟩))) ≤ maxCmdLen := by
        rw [fits_createMirror_iff hout] at hfits
        rw [htext, strlen_outputPieces]
        omega
      exact (pieceOffsets_le hroom).1
    · refine absurd ?_ hspace
      have hsize : toSizeT (maxCmdLen - strlen row.selected) = maxCmdLen - strlen row.selected := by
        rw [toSizeT, Int.emod_eq_of_lt (by omega) (by rw [maxCmdLen]; omega)]
        omega
      rw [MirrorRow.selected] at h hsize
      rw [spaceExceeded, decide_eq_true_eq, hsize]
      omega

section Reached

variable (hslot : s.mirrorSlot aux settings.name = some slot)
  (hsel : slot.state.mirrorSelect settings = some sel)
  (hchanged : slot.mirror.unchanged slot.state.mbridge sel = false)

include hslot hsel hchanged

/-- A call with a changed selection comes to the creation of the mirror. -/
theorem mirrorSet_eq_install : mirrorSet env s aux (some settings) =
    mirrorInstall env (slot.prepared env sel) slot.mirror settings sel := by
  rw [mirrorSet_eq, hslot]
  simp only [mirrorUpdate, hsel, hchanged, Bool.false_eq_true, if_false]
  rfl

theorem mirrorSet_eq_create (hname : row.name = settings.name) :
    mirrorSet env s aux (some settings) =
      mirrorCreate env (slot.prepared env sel) row.name sel >>= fun r =>
        if r.2 = .ok then .ok r else .ok (r.1.mirrorDestroy aux, r.2) := by
  rw [mirrorSet_eq_install hslot hsel hchanged, mirrorInstall, ← hname,
    (State.mirrorSlot_holds hslot).key]

/-- The command is not found too long, and `EMSGSIZE` is not what comes back. -/
theorem mirrorSet_of_room (hname : row.name = settings.name)
    (hnames : slot.state.MirrorNames sel row) (hout : row.out = some out)
    (hspace : strlen row.selected ≤ maxCmdLen →
      strlen row.selected + strlen out + strlen row.name ≤ maxCmdLen) :
    (mirrorSet env s aux (some settings)).Ensures (· = .cmdOverflow) fun r => r.2 ≠ .emsgsize := by
  have hprepared : (slot.prepared env sel).MirrorNames sel row :=
    (mirrorPrepare_frame ..).mirrorNames hnames
  rw [mirrorSet_eq_create hslot hsel hchanged hname]
  refine (hprepared.mirrorCreate_of_room hout hspace).bind fun r hr => ?_
  subst hr
  rw [mirrorCreated]
  dsimp only
  split
  · simp
  · simp

end Reached

end Create

/-- For every call that comes to the creation of a mirror, with any names of its sources,
destinations and output: the length of the command is looked after exactly if there is an output and
the command is whole, or the part before the output port does not outgrow the buffer and leaves less
than the names of the output and the mirror take. -/
theorem mirror_command_checked_iff (env : Env) {s : State} {aux : Ptr}
    {settings : OfprotoMirrorSettings} {slot : MirrorSlot} {sel : MirrorSelection} {row : MirrorRow}
    (hslot : s.mirrorSlot aux settings.name = some slot)
    (hsel : slot.state.mirrorSelect settings = some sel)
    (hchanged : slot.mirror.unchanged slot.state.mbridge sel = false)
    (hname : row.name = settings.name) (hnames : slot.state.MirrorNames sel row) :
    MirrorCommandChecked env s aux settings (slot.prepared env sel) row ↔ row.Checked := by
  have hprepared : (slot.prepared env sel).MirrorNames sel row :=
    (mirrorPrepare_frame ..).mirrorNames hnames
  have hset : mirrorSet env s aux (some settings) = _ :=
    mirrorSet_eq_create hslot hsel hchanged hname
  constructor
  · intro hchecked
    cases hout : row.out with
    | none =>
      have hfault : ∃ e, mirrorCreate env (slot.prepared env sel) row.name sel = .error e :=
        hprepared.mirrorCreate_of_no_output hout
      obtain ⟨e, he⟩ := hfault
      rw [he] at hset
      by_cases hfits : (Cmd.createMirror row).Fits
      · have hwhole := hchecked.whole hfits
        rw [hset] at hwhole
        split at hwhole <;> cases hwhole
      · have hlong := hchecked.tooLong hfits
        rw [hset] at hlong
        cases hlong
    | some out =>
      by_contra hnot
      have hfits : ¬ (Cmd.createMirror row).Fits := fun hfits => hnot ⟨out, hout, .inl hfits⟩
      have hspace : strlen row.selected ≤ maxCmdLen →
          strlen row.selected + strlen out + strlen row.name ≤ maxCmdLen := by
        intro hselected
        by_contra hover
        exact hnot ⟨out, hout, .inr ⟨hselected, by omega⟩⟩
      exact (mirrorSet_of_room hslot hsel hchanged hname hnames hout hspace).of_ok
        (hchecked.tooLong hfits) rfl
  · intro hchecked
    have hoffsets := createOffsets_le hchecked
    obtain ⟨out, hout, hcases⟩ := hchecked
    refine ⟨fun n hn => ⟨hoffsets n hn, Int.sub_nonneg_of_le (hoffsets n hn)⟩, fun hlong => ?_,
      fun hfits => ?_⟩
    · rcases hcases with hfits | ⟨hselected, hspace⟩
      · exact absurd hfits hlong
      · rw [hset, hprepared.mirrorCreate_of_exceeds hout hselected hspace, Except.ok_bind]
        rfl
    · rw [hset, hprepared.mirrorCreate_of_fits hout hfits, Except.ok_bind, mirrorCreated]
      dsimp only
      split
      · simp
      · simp

/-! ## Thirty ports -/

/-- A bridge with the ports `interface100` to `interface129`. -/
def manyBundles : State :=
  { sampleState false with
    bundles := List.range' 100 30
    bundle := fun q => { Ofbundle.fresh q with name := "interface" ++ toString q }
    mbridge := { Mbridge.empty with mbundles := List.range' 100 30, mbundle := id } }

/-- The first `n` of them mirrored to the last one. -/
def manyMirror (n : ℕ) : OfprotoMirrorSettings :=
  ⟨"m", (List.range' 100 n).map (⟨0, ·⟩), [], some ⟨0, 129⟩⟩

def manySelection (n : ℕ) : MirrorSelection :=
  ⟨(List.range' 100 n).map some, [], some 129, some 129⟩

def manyRow (n : ℕ) : MirrorRow :=
  ⟨"m", (List.range' 100 n).map fun q => "interface" ++ toString q, [], some "interface129"⟩

def manySlot : MirrorSlot :=
  ⟨manyBundles.setMirror ⟨0, by decide⟩ (.fresh ⟨0, by decide⟩ 200 "m"), ⟨0, by decide⟩,
    .fresh ⟨0, by decide⟩ 200 "m", false⟩

theorem manySlot_names {n : ℕ} (hsrcs : manySlot.state.bundleNames ((List.range' 100 n).map some) =
    .ok ((List.range' 100 n).map fun q => "interface" ++ toString q)) :
    manySlot.state.MirrorNames (manySelection n) (manyRow n) := by
  refine ⟨hsrcs, rfl, rfl, fun q hq => ?_⟩
  cases hq
  decide

/-- The command for 28 sources is run as a whole. -/
theorem mirror_command_checked_of_fits :
    MirrorCommandChecked sampleEnv manyBundles 200 (manyMirror 28)
      (manySlot.prepared sampleEnv (manySelection 28)) (manyRow 28) := by
  have hslot : manyBundles.mirrorSlot 200 "m" = some manySlot := rfl
  have hsel : manySlot.state.mirrorSelect (manyMirror 28) = some (manySelection 28) := rfl
  have hchanged : manySlot.mirror.unchanged manySlot.state.mbridge (manySelection 28) = false := by
    decide +kernel
  have hfits : (Cmd.createMirror (manyRow 28)).Fits := by
    rw [Cmd.Fits, Cmd.text, strlen_printed]
    decide +kernel
  exact (mirror_command_checked_iff sampleEnv hslot hsel hchanged rfl (manySlot_names rfl)).mpr
    ⟨_, rfl, .inl hfits⟩

/-- The command for 29 sources has 2058 bytes, and it is run. -/
theorem mirror_command_cut_off : ¬ ∀ (env : Env) (s : State) (aux : Ptr)
    (settings : OfprotoMirrorSettings) (slot : MirrorSlot) (sel : MirrorSelection) (row : MirrorRow),
    s.mirrorSlot aux settings.name = some slot → slot.state.mirrorSelect settings = some sel →
    slot.mirror.unchanged slot.state.mbridge sel = false → row.name = settings.name →
    slot.state.MirrorNames sel row →
    MirrorCommandChecked env s aux settings (slot.prepared env sel) row := by
  intro hall
  have hslot : manyBundles.mirrorSlot 200 "m" = some manySlot := rfl
  have hsel : manySlot.state.mirrorSelect (manyMirror 29) = some (manySelection 29) := rfl
  have hchanged : manySlot.mirror.unchanged manySlot.state.mbridge (manySelection 29) = false := by
    decide +kernel
  have hnames : manySlot.state.MirrorNames (manySelection 29) (manyRow 29) := manySlot_names rfl
  have hselected : strlen (manyRow 29).selected = 1989 := by
    rw [MirrorRow.selected, piecesText, strlen_printed]
    decide +kernel
  have hout : strlen "interface129" = 12 := rfl
  have hmirror : strlen "m" = 1 := rfl
  have hlong : ¬ (Cmd.createMirror (manyRow 29)).Fits := by
    rw [fits_createMirror_iff rfl, hselected, hout, maxCmdLen]
    omega
  have hchecked := hall sampleEnv manyBundles 200 (manyMirror 29) _ _ _ hslot hsel hchanged rfl hnames
  refine (mirrorSet_of_room hslot hsel hchanged rfl hnames rfl fun _ => ?_).of_ok
    (hchecked.tooLong hlong) rfl
  rw [hselected, hout, maxCmdLen]
  show 1989 + 12 + strlen "m" ≤ 2048
  omega

end ContainerPlugin.Ofproto
