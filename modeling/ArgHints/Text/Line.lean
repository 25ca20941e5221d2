namespace ArgHints.Text

def isTerminator (c : Char) : Bool :=
  let n := c.toNat
  (0x0a ≤ n && n ≤ 0x0d) || (0x1c ≤ n && n ≤ 0x1e) || n == 0x85 || n == 0x2028 || n == 0x2029

structure Line where
  content : List Char
  /-- One terminating character, or a carriage return and a newline, or nothing. -/
  terminator : List Char
  deriving DecidableEq, Repr

def Line.chars (line : Line) : List Char :=
  line.content ++ line.terminator

/-- The number of columns of a line. Carriage returns and newlines at its end are no columns; any
other terminator is one. -/
def Line.width (line : Line) : Nat :=
  (line.chars.reverse.dropWhile fun c => c == '\r' || c == '\n').length

def leadingTerminator : List Char → List Char
  | '\r' :: '\n' :: _ => ['\r', '\n']
  | c :: _ => [c]
  | [] => []

def firstLine (text : List Char) : Line where
  content := text.takeWhile (!isTerminator ·)
  terminator := leadingTerminator (text.dropWhile (!isTerminator ·))

def afterFirstLine (text : List Char) : List Char :=
  let tail := text.dropWhile (!isTerminator ·)
  tail.drop (leadingTerminator tail).length

theorem length_takeWhile_add_dropWhile (p : Char → Bool) (text : List Char) :
    (text.takeWhile p).length + (text.dropWhile p).length = text.length := by
  rw [← List.length_append, List.takeWhile_append_dropWhile]

theorem length_afterFirstLine_lt (c : Char) (rest : List Char) :
    (afterFirstLine (c :: rest)).length < (c :: rest).length := by
  have total := length_takeWhile_add_dropWhile (!isTerminator ·) (c :: rest)
  unfold afterFirstLine
  cases tail : (c :: rest).dropWhile (!isTerminator ·) with
  | nil => simp
  | cons d others =>
      have positive : 0 < (leadingTerminator (d :: others)).length := by
        unfold leadingTerminator; split <;> simp_all
      rw [tail] at total
      simp only [List.length_drop, List.length_cons] at total ⊢
      omega

/-- The lines of a text. Nothing follows a final terminator, so the empty text has no line. -/
def lines (text : List Char) : List Line :=
  match text with
  | [] => []
  | c :: rest => firstLine (c :: rest) :: lines (afterFirstLine (c :: rest))
  termination_by text.length
  decreasing_by exact length_afterFirstLine_lt c rest

/-- The offset of a column on the line that is `below` lines under the start of `text`, which
itself starts at the offset `start`. -/
def offsetBelow (start : Nat) (text : List Char) (column : Nat) : (below : Nat) → Nat
  | 0 => start + min column (firstLine text).width
  | below + 1 =>
    if text.isEmpty then start
    else offsetBelow (start + (firstLine text).chars.length) (afterFirstLine text) column below

inductive PositionError where
  | line (number : Int)
  | column (number : Int)
  deriving DecidableEq, Repr

def PositionError.message : PositionError → String
  | .line number => s!"Line numbers start at 1, got {number}"
  | .column number => s!"Columns start at 0, got {number}"

def offsetAt (text : List Char) (line column : Int) : Except PositionError Nat :=
  if line < 1 then .error (.line line)
  else if column < 0 then .error (.column column)
  else .ok (offsetBelow 0 text column.toNat (line - 1).toNat)

structure Position where
  line : Nat
  column : Nat
  deriving DecidableEq, Repr

/-- The place that lies `ahead` characters into a text whose start has the number `number`. -/
def positionAhead (number : Nat) (text : List Char) (ahead : Nat) : Position :=
  match text with
  | [] => ⟨number, ahead⟩
  | c :: rest =>
    let line := firstLine (c :: rest)
    if line.terminator.isEmpty || ahead < line.chars.length then ⟨number, ahead⟩
    else positionAhead (number + 1) (afterFirstLine (c :: rest)) (ahead - line.chars.length)
  termination_by text.length
  decreasing_by exact length_afterFirstLine_lt c rest

def positionAt (text : List Char) (offset : Nat) : Position :=
  positionAhead 1 text offset

end ArgHints.Text
