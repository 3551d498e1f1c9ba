import FocusBilling.Text.Runs

/-!
# Characters as they are seen

A letter and the marks on it, a syllable, a flag or a joined picture take several code points but
are seen as one character.

* `Text.clusters` : a text cut into what is seen as single characters;
* `Text.reversed` : a text with these in reverse.

A break may stand anywhere except where one of the rules of `Text.joins` holds.
-/

namespace FocusBilling.Text

/-- The written classes: `B` and `F` the two line breaks, `C` controls, `E` extending marks, `K`
those of them that link consonants, `Z` the joiner, `S` spacing marks, `P` characters in front, `L`,
`V`, `T` the parts of syllables, `R` halves of flags, `X` pictures, `I` consonants, `O` others. -/
def clusterText : String :=
    "C:a F C:2 B C:12 O:5f C:21 O:9 X O:3 C X O:251 E:70 O:113 E:7 O:107 E:2d O E O E:2 O E:2 " ++
    "O E O:38 P:6 O:a E:b O C O:2e E:15 O:10 E O:65 E:7 P O E:6 O:2 E:2 O E:4 O:21 P O E O:1e " ++
    "E:1b O:5b E:b O:3a E:9 O:9 E O:18 E:4 O E:9 O E:3 O E:5 O:2b E:3 O:34 P:2 O:6 E:8 O:2a " ++
    "E:18 P E:20 S O:11 I:25 E S E O S:3 E:8 S:4 K S:2 O E:7 I:8 O:2 E:2 O:14 I:8 O E S:2 O:11 " ++
    "I:14 O I:7 O I O:3 I:4 O:2 E O E S:2 E:4 O:2 S:2 O:2 S:2 K O:9 E O:4 I:2 O I O:2 E:2 O:c " ++
    "I:2 O:c E O:2 E:2 S O:38 E O S:3 E:2 O:4 E:2 O:2 E:3 O:3 E O:1e E:2 O:3 E O:b E:2 S O:11 " ++
    "I:14 O I:7 O I:2 O I:5 O:2 E O S:3 E:5 O E:2 S O S:2 K O:14 E:2 O:15 I E:6 O E S:2 O:11 " ++
    "I:14 O I:7 O I:2 O I:5 O:2 E O E:2 S E:4 O:2 S:2 O:2 S:2 K O:7 E:3 O:4 I:2 O I O:2 E:2 " ++
    "O:d I O:10 E O:3b E S E S:2 O:3 S:3 O S:3 E O:9 E O:28 E S:3 E O:10 I:14 O I:10 O:2 E O " ++
    "E:3 S:4 O E:3 O E:3 K O:7 E:2 O I:3 O:7 E:2 O:1d E S:2 O:38 E O S E S:2 E S:2 O E S:2 O " ++
    "S:2 E:2 O:7 E:2 O:b E:2 O:f S O:c E:2 S:2 O:11 I:26 E:2 O E S:2 E:4 O S:3 O S:3 K P O:8 E " ++
    "O:a E:2 O:1d E S:2 O:46 E O:4 E S:2 E:3 O E O S:7 E O:12 S:2 O:3d E O S E:7 O:c E:8 O:62 " ++
    "E O S E:9 O:b E:7 O:49 E:2 O:1b E O E O E O:4 S:2 O:31 E:e S E:5 O E:2 O:5 E:b O E:24 O:9 " ++
    "E O:66 E:4 S E:6 O E:2 S:2 E:2 O:17 S:2 E:2 O:4 E:3 O:10 E:4 O:d E O S E:2 O:6 E O:f E " ++
    "O:62 L:60 V:48 T:58 O:15d E:3 O:3b2 E:3 S O:1c E:2 S O:1d E:2 O:1e E:2 O:40 E:2 S E:7 S:8 " ++
    "E S:2 E:b O:9 E O:2d E:3 C E O:75 E:2 O:22 E O:76 E:3 S:4 E:2 S:3 O:4 S:2 E S:6 E:3 O:db " ++
    "E:2 S:2 E O:39 S E S E:7 O E O E O:2 E:8 S:6 E:a O:2 E O:30 E:1f O:31 E:4 S O:2f E:7 S E " ++
    "S:5 E S:2 O:26 E:9 O:c E:2 S O:1e S E:4 S:2 E:2 S E:3 O:38 E S E:2 S:3 E S E:3 S:2 O:30 " ++
    "S:8 E:8 S:2 E:2 O:98 E:3 O E:d S E:7 O:4 E O:6 E O:2 S E:2 O:c6 E:40 O:20b C E Z C:2 O:18 " ++
    "C:7 O:d X O:c X O:16 C:10 O:60 E:21 O:31 X O:16 X O:5a X:6 O:f X:2 O:16f X:2 O:c X O:5f X " ++
    "O:46 X O:19 X:b O:4 X:3 O:c7 X O:e7 X:2 O:a X O:9 X O:3a X:4 O X:6 O X:c O X:72 O:a X:76 " ++
    "O:2 X:b O X O X O:6 X O:3 X O:6 X O:a X:2 O:f X O:2 X O:4 X O X O:4 X:3 O X O:b X:5 O:2d " ++
    "X:3 O:9 X O:e X O:e X O:174 X:2 O:1cf X:3 O:13 X:2 O:33 X O:4 X O:199 E:3 O:8d E O:60 " ++
    "E:20 O:22a E:6 X O:c X O:5b E:2 O:1fc X O X O:73d5 E:4 O E:a O:20 E:2 O:50 E:2 O:110 E " ++
    "O:3 E O:4 E O:17 S:2 E:2 S O:4 E O:53 S:2 O:32 S:10 E:2 O:1a E:12 O:d E O:26 E:8 O:19 E:b " ++
    "S:2 O:c L:1d O:3 E:3 S O:2f E S:2 E:4 S:2 E:2 S:3 O:24 E O:43 E:6 S:2 E:2 S:2 E:2 O:c E " ++
    "O:8 E S O:2e E O:33 E O E:3 O:2 E:2 O:5 E:2 O E O:29 S E:2 S:2 O:5 S E O:ec S:2 E S:2 E " ++
    "S:2 O S E O:2bc2 V:17 O:4 T:31 O:2322 E O:2e1 E:10 O:10 E:10 O:cf C O:9e E:2 O:50 C:c " ++
    "O:201 E O:e2 E O:95 E:5 O:686 E:3 O E:2 O:5 E:4 O:28 E:3 O:4 E O:a5 E:2 O:23d E:4 O:183 " ++
    "E:2 O:50 E:3 O:46 E:b O:31 E:4 O:7a S E S O:35 E:f O:29 E O:2 E:2 O:a E:3 S O:2d S:3 E:4 " ++
    "S:2 E:2 O:2 P O:4 E O:a P O:32 E:3 O:24 E:5 S E:8 O:10 S:2 O:2c E O:c E:2 S O:30 S:3 E:9 " ++
    "S:2 O P:2 O:5 E:4 O S E O:5c S:3 E:3 S:2 E S E:2 O:6 E O:2 E O:9d E S:3 E:8 O:15 E:2 S:2 " ++
    "O:37 E:2 O E S E S:4 O:2 S:2 O:2 S:3 O:9 E O:a S:2 O:2 E:7 O:3 E:5 O:c0 S:3 E:8 S:2 E:3 S " ++
    "E O:17 E O:51 E S:2 E:6 S E S:2 E S E:2 S E:2 O:eb E S:2 E:4 O:2 S:4 E:2 S E:2 O:1b E:2 " ++
    "O:52 S:3 E:8 S:2 E S E:2 O:6a E S E S:2 E:6 S E O:65 E:3 O:2 E:4 S E:5 O:100 S:3 E:9 S " ++
    "E:2 O:f5 E S:5 O S:2 O:2 E:2 S E P S P S E O:8d S:3 E:4 O:2 E:2 S:4 E O:3 S O:1c E:a O:28 " ++
    "E:6 S P E:4 O:8 E O:9 E:6 S:2 E:3 O:28 P:6 E:d S E:2 O:195 S E:7 O E:6 S E O:52 E:16 O S " ++
    "E:7 S E:2 S E:2 O:7a E:6 O:3 E O E:2 O E:7 P E O:42 S:5 O E:2 O S:2 E S E O:15b E:2 S:2 " ++
    "O:9 E:2 P S O:30 S:2 E:5 O:3 S:2 E S E O:14ed C:10 E O:6 E:f O:369a E:5 O:3b E:7 O:418 E " ++
    "O S:37 O:7 E:4 O:51 E O:b S:2 O:4cab E:2 O C:4 O:125c E:2e O:2 E:17 O:21e E S E:3 O:3 S " ++
    "E:5 C:8 E:8 O:2 E:7 O:1e E:4 O:94 E:3 O:7bb E:37 O:4 E:32 O:8 E O:e E O:16 E:5 O E:f " ++
    "O:550 E:7 O E:11 O:2 E:7 O E:2 O E:5 O:64 E O:a0 E:7 O:177 E O:3d E:4 O:1fc E:4 O:3e0 E:7 " ++
    "O:6d E:7 O:6b5 X:100 O:d X:3 O:1f X O:3c X:6 O:c X:2 O:e X O:2 X:a O:12 X:39 R:1a O X:f " ++
    "O:a X O:14 X O:2 X:9 O X:4 O:9 X:1b2 E:5 X:13e O:8 X:10a O:30 X:80 O:74 X:c O:55 X:2b O:c " ++
    "X:4 O:38 X:8 O:a X:6 O:28 X:8 O:1e X:52 O:c X:2f O X:a O X:1b9 O:100 X:3fe O:c0002 C:20 " ++
    "E:60 C:80 E:f0 C:e10 O:2f000"

/-- The classes of all code points but whole syllables. -/
def clusterClasses : RunTable := RunTable.read clusterText

/-- The class of a character; a whole syllable ends like its last part. -/
def clusterClass (c : Char) : String :=
  let n := c.toNat
  if n < 128 then
    if c = '\r' then "B" else if c = '\n' then "F" else if n < 32 || n = 127 then "C" else "O"
  else if 0xac00 ≤ n && n ≤ 0xd7a3 then (if (n - 0xac00) % 28 = 0 then "LV" else "LVT")
  else clusterClasses.label c

/-- What a cluster that is still open has shown so far. -/
structure OpenCluster where
  /-- The class of its last character. -/
  last : String
  /-- Whether the halves of flags at its end are odd in number. -/
  oddFlag : Bool
  /-- Whether a picture and extending marks stand at its end. -/
  picture : Bool
  /-- Whether a consonant and marks stand at its end. -/
  consonant : Bool
  /-- Whether a linking mark is among the latter. -/
  linked : Bool

namespace OpenCluster

/-- A cluster of one character. -/
def ofClass (k : String) : OpenCluster := ⟨k, k == "R", k == "X", k == "I", false⟩

/-- Whether a character of a class belongs to the cluster. -/
def joins (o : OpenCluster) (k : String) : Bool :=
  let hard (s : String) : Bool := s == "B" || s == "F" || s == "C"
  if o.last == "B" && k == "F" then true
  else if hard o.last || hard k then false
  else
    (o.last == "L" && ["L", "V", "LV", "LVT"].contains k) ||
    ((o.last == "LV" || o.last == "V") && (k == "V" || k == "T")) ||
    ((o.last == "LVT" || o.last == "T") && k == "T") ||
    ["E", "K", "Z", "S"].contains k || o.last == "P" ||
    (o.linked && k == "I") ||
    (o.last == "Z" && o.picture && k == "X") ||
    (o.oddFlag && k == "R")

/-- The cluster with one more character. -/
def push (o : OpenCluster) (k : String) : OpenCluster :=
  let mark := ["E", "K", "Z"].contains k
  ⟨k, k == "R" && !o.oddFlag, k == "X" || (o.picture && mark),
    k == "I" || (o.consonant && mark), k != "I" && o.consonant && mark && (o.linked || k == "K")⟩

end OpenCluster

/-- The clusters of characters behind an open cluster, which is given in reverse. -/
def clustersFrom (o : OpenCluster) (current : List Char) : List Char → List (List Char)
  | [] => [current.reverse]
  | c :: cs =>
    let k := clusterClass c
    if o.joins k then clustersFrom (o.push k) (c :: current) cs
    else current.reverse :: clustersFrom (.ofClass k) [c] cs

/-- A text cut into what is seen as single characters. -/
def clusters : List Char → List (List Char)
  | [] => []
  | c :: cs => clustersFrom (.ofClass (clusterClass c)) [c] cs

/-- A text with what is seen as single characters in reverse. -/
def reversed (s : String) : String := String.ofList (clusters s.toList).reverse.flatten

end FocusBilling.Text
