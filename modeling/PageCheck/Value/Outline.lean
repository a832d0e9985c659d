import PageCheck.Number.Layout
import PageCheck.Text.Quoted
import PageCheck.Value

/-!
# Values in messages

How values look in messages, with texts between quotes.
-/

namespace PageCheck.Value

def outlineByte (quote : Char) (b : UInt8) : List Char :=
  let c := Char.ofNat b.toNat
  if c = '\n' || c = '\r' || c = '\t' || c = '\\' || c = quote then Text.escapeChar quote c
  else if 0x20 ≤ b.toNat && b.toNat < 0x7F then [c]
  else '\\' :: 'x' :: Text.hexDigits 2 b.toNat

def outlineBytes (octets : List UInt8) : String :=
  let quote := Text.quoteFor (octets.map fun b => Char.ofNat b.toNat)
  String.ofList ('b' :: quote :: octets.flatMap (outlineByte quote) ++ [quote])

/-- A span of time, by its days and the seconds of the last one. -/
def outlineSpan (seconds : Int) : String :=
  let days := seconds.fdiv Calendar.secondsInDay
  let rest := seconds.fmod Calendar.secondsInDay
  let parts := (if days = 0 then [] else ["days=" ++ toString days]) ++
    (if rest = 0 then [] else ["seconds=" ++ toString rest])
  "datetime.timedelta(" ++ (if parts.isEmpty then "0" else ", ".intercalate parts) ++ ")"

def outlineDate (d : Calendar.Date) : String :=
  "datetime.date(" ++ ", ".intercalate ([d.year, d.month, d.day].map toString) ++ ")"

/-- A moment with its seconds and parts of a second only if there are any. -/
def outlineMoment (m : Calendar.Moment) : String :=
  let parts := if m.microsecond = 0 then [] else [m.microsecond]
  let seconds := if m.second = 0 && m.microsecond = 0 then [] else m.second :: parts
  let zone := match m.ahead with
    | none => []
    | some 0 => ["tzinfo=datetime.timezone.utc"]
    | some ahead => ["tzinfo=datetime.timezone(" ++ outlineSpan ahead ++ ")"]
  let numbers := [m.date.year, m.date.month, m.date.day, m.hour, m.minute] ++ seconds
  "datetime.datetime(" ++ ", ".intercalate (numbers.map toString ++ zone) ++ ")"

mutual

def outline : Value → String
  | null => "None"
  | bool b => if b then "True" else "False"
  | int n => toString n
  | real x => Layout.message.write x
  | text s => Text.quoted s
  | brokenText codes => String.ofList (Text.quotedCodes codes)
  | bytes octets => outlineBytes octets
  | date d => outlineDate d
  | moment m => outlineMoment m
  | list items => "[" ++ outlineItems items ++ "]"
  | set items => if items.isEmpty then "set()" else "\x7b" ++ outlineItems items ++ "\x7d"
  | map entries => "\x7b" ++ outlineEntries entries ++ "\x7d"

def outlineItems : List Value → String
  | [] => ""
  | [v] => v.outline
  | v :: w :: rest => v.outline ++ ", " ++ outlineItems (w :: rest)

def outlineEntries : List (Value × Value) → String
  | [] => ""
  | [(key, v)] => key.outline ++ ": " ++ v.outline
  | (key, v) :: next :: rest =>
    key.outline ++ ": " ++ v.outline ++ ", " ++ outlineEntries (next :: rest)

end

mutual

/-- Whether a value holds a whole number that is too long to be written. -/
def hasLong : Value → Bool
  | int n => Text.isLong n
  | list items => hasLongItem items
  | set items => hasLongItem items
  | map entries => hasLongEntry entries
  | _ => false

def hasLongItem : List Value → Bool
  | [] => false
  | v :: rest => v.hasLong || hasLongItem rest

def hasLongEntry : List (Value × Value) → Bool
  | [] => false
  | (key, v) :: rest => key.hasLong || v.hasLong || hasLongEntry rest

end

end PageCheck.Value
