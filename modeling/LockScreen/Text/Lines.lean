namespace LockScreen.Text

def pieces (separator : Char) : List Char → List (List Char)
  | [] => [[]]
  | c :: rest =>
    match pieces separator rest with
    | [] => [[]]
    | piece :: others =>
      if c = separator then [] :: piece :: others else (c :: piece) :: others

def withoutReturn (line : List Char) : List Char :=
  if line.getLast? = some '\r' then line.dropLast else line

def lines (text : List Char) : List (List Char) :=
  let all := pieces '\n' text
  all.dropLast.map withoutReturn ++ (all.getLast?.filter fun last => !last.isEmpty).toList

def rows (text : String) : List String :=
  (lines (text.toList ++ ['\n'])).map String.ofList

def isBlank (c : Char) : Bool :=
  let code := c.toNat
  (0x09 ≤ code && code ≤ 0x0d) || code = 0x20 || code = 0x85 || code = 0xa0 || code = 0x1680 ||
    (0x2000 ≤ code && code ≤ 0x200a) || code = 0x2028 || code = 0x2029 || code = 0x202f ||
    code = 0x205f || code = 0x3000

def stripped (text : List Char) : List Char :=
  ((text.dropWhile isBlank).reverse.dropWhile isBlank).reverse

end LockScreen.Text
