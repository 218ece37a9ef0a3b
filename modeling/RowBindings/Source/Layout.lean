/-!
# Layout

Text with places where a line may end, and the choice of the places where it does. Boxes group
places: in a consistent box all of them are line ends or none, in another box each is a line end
only if what follows up to the next place would not fit.

The choice is made in one pass. Commands wait in a buffer until it is known whether the box or the
stretch they belong to fits into the line; widths are counted in bytes.
-/

namespace RowBindings.Source

/-- A place where a line may end. -/
structure Break where
  /-- Added to the indentation if the line ends here. -/
  offset : Int := 0
  /-- The number of blanks if the line does not end here. -/
  blanks : Nat := 0
  /-- Written before the line ends. -/
  atEnd : Option Char := none
  /-- Written at the start of the next line. -/
  atStart : String := ""
  /-- Written if the line does not end here. -/
  inLine : Option Char := none
  /-- If the text before ends with this character and the line does not end here, a blank is
  written. -/
  apartFrom : Option Char := none
  /-- Dropped at the end of a box. -/
  ifFollowed : Bool := false
  /-- The line never ends here. -/
  never : Bool := false
  deriving DecidableEq, Repr

/-- A step of a layout. -/
inductive Command
  | text (s : String)
  /-- A blank if the text before ends with a character. -/
  | blankAfter (c : Char)
  | gap (b : Break)
  /-- Opens a box; the offset is added to the indentation if the box does not fit. -/
  | box (offset : Int) (consistent : Bool)
  | close
  /-- Closes a box, which is taken not to fit if it is wider than the limit. -/
  | closeWithin (limit : Nat)
  /-- Changes the offset of the place just before. -/
  | shift (offset : Int)
  deriving DecidableEq, Repr

/-- What is laid out. -/
abbrev Doc := List Command

namespace Layout

/-- The width of a line. -/
def margin : Int := 89

/-- What a line has room for at least, however deep it is indented. -/
def leastRoom : Int := 60

/-- Wider than any line. -/
def infinity : Nat := 0xffff

/-- What waits in the buffer. -/
inductive Item
  | text (s : String)
  | gap (b : Break)
  | box (offset : Int) (consistent : Bool)
  | close

/-- An item with its size, which is negative as long as it is not known. -/
structure Entry where
  item : Item
  size : Int

/-- A box being written: whether it fits, and else the indentation outside of it and whether all
its places are line ends. -/
inductive OpenBox
  | fits
  | broken (indent : Int) (consistent : Bool)

/-- The state of a layout. -/
structure State where
  /-- The text written, last piece first. -/
  out : List String := []
  /-- The room left on the line. -/
  room : Int := margin
  buffer : Array Entry := #[]
  /-- The number of entries that have left the buffer. -/
  first : Nat := 0
  /-- The width of what has been written, and of that together with what is in the buffer. -/
  leftTotal : Int := 0
  rightTotal : Int := 0
  /-- The entries whose size is not known, by their numbers, oldest first. -/
  pending : List Nat := []
  boxes : List OpenBox := []
  indent : Int := 0
  /-- Blanks to be written before the next text. -/
  blanks : Nat := 0

namespace State

/-- Writes text. -/
def write (s : State) (text : String) : State :=
  { s with
    out := text :: String.ofList (List.replicate s.blanks ' ') :: s.out
    blanks := 0 }

/-- Writes text that takes room on the line. -/
def writeText (s : State) (text : String) : State :=
  let s := s.write text
  { s with room := s.room - text.utf8ByteSize }

/-- Opens a box of known size. -/
def openBox (s : State) (offset : Int) (consistent : Bool) (size : Int) : State :=
  if size > s.room then
    { s with boxes := .broken s.indent consistent :: s.boxes, indent := s.indent + offset }
  else { s with boxes := .fits :: s.boxes }

/-- Closes a box. -/
def closeBox (s : State) : State :=
  match s.boxes with
  | [] => s
  | .fits :: rest => { s with boxes := rest }
  | .broken indent _ :: rest => { s with boxes := rest, indent }

/-- Whether a line goes on at a place, given the width of what follows it. -/
def staysInLine (s : State) (b : Break) (size : Int) : Bool :=
  b.never || match s.boxes with
    | .fits :: _ => true
    | .broken _ true :: _ => false
    | _ => size ≤ s.room

/-- Passes a place of known size. -/
def passBreak (s : State) (b : Break) (size : Int) : State :=
  if s.staysInLine b size then
    let s := { s with blanks := s.blanks + b.blanks, room := s.room - b.blanks }
    match b.inLine with
    | some c => { s with out := String.ofList [c] :: s.out, room := s.room - c.utf8Size }
    | none => s
  else
    let s := match b.atEnd with
      | some c => s.write (String.ofList [c])
      | none => s
    let indent := s.indent + b.offset
    let s := { s with
      out := "\n" :: s.out
      blanks := indent.toNat
      room := max (margin - indent) leastRoom }
    if b.atStart.isEmpty then s else s.writeText b.atStart

/-- Writes the entries at the front whose size is known. -/
def advance : Nat → State → State
  | 0, s => s
  | fuel + 1, s =>
    match s.buffer[0]? with
    | none => s
    | some e =>
      if e.size < 0 then s
      else
        let s := { s with buffer := s.buffer.drop 1, first := s.first + 1 }
        advance fuel <| match e.item with
          | .text t => { s with leftTotal := s.leftTotal + e.size }.writeText t
          | .gap b => { s with leftTotal := s.leftTotal + b.blanks }.passBreak b e.size
          | .box offset consistent => s.openBox offset consistent e.size
          | .close => s.closeBox

/-- Makes room: as long as the buffer is wider than the line, what is at its front does not fit. -/
def overflow : Nat → State → State
  | 0, s => s
  | fuel + 1, s =>
    if s.rightTotal - s.leftTotal > s.room && !s.buffer.isEmpty then
      let s := match s.pending with
        | n :: rest =>
          if n == s.first then
            { s with pending := rest
                     buffer := s.buffer.modify 0 fun e => { e with size := infinity } }
          else s
        | [] => s
      overflow fuel (s.advance (s.buffer.size + 1))
    else s

/-- Appends an entry whose size is not known yet. -/
def append (s : State) (item : Item) (size : Int) : State :=
  { s with
    buffer := s.buffer.push { item, size }
    pending := s.pending ++ [s.first + s.buffer.size] }

/-- Starts afresh, nothing being in wait. -/
def restart (s : State) : State :=
  { s with leftTotal := 1, rightTotal := 1, first := s.first + s.buffer.size, buffer := #[] }

/-- Settles the sizes of the entries from the last on that are complete: of a place and, `depth`
boxes having been closed, of these boxes. -/
def settle : Nat → Nat → State → State
  | 0, _, s => s
  | fuel + 1, depth, s =>
    match s.pending.getLast? with
    | none => s
    | some n =>
      let i := n - s.first
      match s.buffer[i]? with
      | none => s
      | some e =>
        let done (size : Int) : State :=
          { s with pending := s.pending.dropLast
                   buffer := s.buffer.modify i fun e => { e with size } }
        match e.item with
        | .box .. => if depth == 0 then s else settle fuel (depth - 1) (done (e.size + s.rightTotal))
        | .close => settle fuel (depth + 1) (done 1)
        | .gap _ =>
          let s := done (e.size + s.rightTotal)
          if depth == 0 then s else settle fuel depth s
        | .text _ => s

/-- Takes up a box. -/
def scanBox (s : State) (offset : Int) (consistent : Bool) : State :=
  let fresh : State := if s.pending.isEmpty then s.restart else s
  fresh.append (Item.box offset consistent) (-fresh.rightTotal)

/-- Whether the text so far ends with a character. -/
def endsWith (s : State) (c : Char) : Bool :=
  let texts := s.buffer.toList.filterMap fun e => match e.item with
    | .text t => some t
    | _ => none
  match texts.getLast? with
  | some t => t.toList.getLast? == some c
  | none => (s.out.find? (!·.isEmpty)).any fun t => t.toList.getLast? == some c

/-- A place with what keeps it apart from the text before. -/
def apart (s : State) (b : Break) : Break :=
  if b.apartFrom.any s.endsWith then { b with inLine := some ' ' } else b

/-- Takes up a place. -/
def scanBreak (s : State) (b : Break) : State :=
  let ready : State := if s.pending.isEmpty then s.restart else s.settle (s.buffer.size + 1) 0
  let taken : State := ready.append (.gap b) (-ready.rightTotal)
  { taken with rightTotal := taken.rightTotal + b.blanks }

/-- Takes up text. -/
def scanText (s : State) (t : String) : State :=
  if s.pending.isEmpty then s.writeText t
  else
    let size : Int := t.utf8ByteSize
    let s := { s with
      buffer := s.buffer.push { item := .text t, size }
      rightTotal := s.rightTotal + size }
    s.overflow (s.buffer.size + 1)

/-- Drops the last entries, which are in wait. -/
def dropLast (s : State) (count : Nat) (blanks : Nat) : State :=
  { s with
    buffer := s.buffer.take (s.buffer.size - count)
    pending := s.pending.take (s.pending.length - count)
    rightTotal := s.rightTotal - blanks }

/-- Takes up the end of a box. A box that holds a place and nothing else is dropped. -/
def scanClose (s : State) : State :=
  if s.pending.isEmpty then s.closeBox
  else
    let last : Option Item := s.buffer[s.buffer.size - 1]?.map (·.item)
    let beforeLast : Option Item :=
      if s.buffer.size ≥ 2 then s.buffer[s.buffer.size - 2]?.map (·.item) else none
    match last, beforeLast with
    | some (.gap b), some (.box ..) => s.dropLast 2 b.blanks
    | some (.gap b), _ =>
      (if b.ifFollowed then s.dropLast 1 b.blanks else s).append .close (-1)
    | _, _ => s.append .close (-1)

/-- The width so far of the box that the next end closes. -/
def boxWidth? (s : State) : Option Int :=
  let rec go : Nat → List Nat → Option Int
    | _, [] => none
    | depth, n :: rest =>
      match s.buffer[n - s.first]? with
      | none => none
      | some e => match e.item with
        | .box .. =>
          match depth with
          | 0 => if e.size < 0 then some (e.size + s.rightTotal) else none
          | depth + 1 => go depth rest
        | .close => go (depth + 1) rest
        | _ => go depth rest
  go 0 s.pending.reverse

/-- Takes up the end of a box with a limit to its width. -/
def scanCloseWithin (s : State) (limit : Nat) : State :=
  let s := match s.boxWidth? with
    | some width =>
      if width > limit then
        { s with
          buffer := s.buffer.push { item := .text "", size := infinity }
          rightTotal := s.rightTotal + infinity }
      else s
    | none => s
  s.scanClose

/-- Changes the offset of the last place. -/
def shiftLast (s : State) (offset : Int) : State :=
  { s with buffer := s.buffer.modify (s.buffer.size - 1) fun e => match e.item with
    | .gap b => { e with item := .gap { b with offset := b.offset + offset } }
    | _ => e }

/-- Takes up a command. -/
def scan (s : State) : Command → State
  | .text t => s.scanText t
  | .blankAfter c => if s.endsWith c then s.scanText " " else s
  | .gap b => s.scanBreak (s.apart b)
  | .box offset consistent => s.scanBox offset consistent
  | .close => s.scanClose
  | .closeWithin limit => s.scanCloseWithin limit
  | .shift offset => s.shiftLast offset

/-- Writes what is left in the buffer. -/
def finish (s : State) : State :=
  if s.pending.isEmpty then s
  else
    let s := s.settle (s.buffer.size + 1) 0
    s.advance (s.buffer.size + 1)

end State

/-- The text of a layout. -/
def render (doc : Doc) : String :=
  String.join ((doc.foldl State.scan {}).finish.out.reverse)

end Layout

/-! ## Building layouts -/

namespace Doc

/-- The usual indentation. -/
def indentation : Int := 4

/-- Text. -/
def word (s : String) : Doc := [.text s]

/-- A place that is a blank unless the line ends there. -/
def space : Doc := [.gap { blanks := 1 }]

/-- A place that is nothing unless the line ends there. -/
def zero : Doc := [.gap {}]

/-- A place before a point, which is kept apart from a point before it. -/
def beforePoint : Doc := [.gap { apartFrom := some '.' }]

/-- A line end. -/
def newline : Doc := [.gap { blanks := Layout.infinity }]

/-- A place where the line goes on. -/
def noBreak : Doc := [.gap { never := true }]

/-- A line end, unless nothing follows in the box. -/
def newlineIfFollowed : Doc := [.gap { blanks := Layout.infinity, ifFollowed := true }]

/-- A place that is a blank unless the line ends there, and is dropped if nothing follows. -/
def spaceIfFollowed : Doc := [.gap { blanks := 1, ifFollowed := true }]

/-- A comma and a place; after the last element a comma only if the line ends there. -/
def comma (isLast : Bool) : Doc :=
  if isLast then [.gap { atEnd := some ',' }] else word "," ++ space

/-- Like `comma`, with a blank after the last element if the line goes on. -/
def commaOrSpace (isLast : Bool) : Doc :=
  if isLast then [.gap { blanks := 1, atEnd := some ',' }] else word "," ++ space

/-- A blank if the text before ends with a character. -/
def blankAfter (c : Char) : Doc := [.blankAfter c]

/-- Moves the line end just before back by the usual indentation. -/
def dedent : Doc := [.shift (-indentation)]

/-- A box whose places are line ends all together. -/
def cbox (offset : Int) (d : Doc) : Doc := .box offset true :: d ++ [.close]

/-- A box whose places are line ends one by one. -/
def ibox (offset : Int) (d : Doc) : Doc := .box offset false :: d ++ [.close]

/-- Elements of a list, each with its trailing part, which depends on whether it is the last. -/
def sequence (trailing : Bool → Doc) : List Doc → Doc
  | [] => []
  | [d] => d ++ trailing true
  | d :: rest => d ++ trailing false ++ sequence trailing rest

/-- Layouts with something between each two. -/
def separated (between : Doc) : List Doc → Doc
  | [] => []
  | [d] => d
  | d :: rest => d ++ between ++ separated between rest

/-- A list between brackets, the elements on lines of their own if they do not fit. -/
def bracketed (opening closing : String) (elements : List Doc) : Doc :=
  word opening ++ cbox indentation (zero ++ sequence comma elements ++ dedent) ++ word closing

end Doc

end RowBindings.Source
