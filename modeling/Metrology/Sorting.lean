namespace Metrology.Sorting

variable {α ε : Type}

/-- The first place from `low` on where a property ends, if it holds up to there and not behind. -/
def bisect (holds : Nat → Except ε Bool) : Nat → Nat → Nat → Except ε Nat
  | 0, low, _ => .ok low
  | fuel + 1, low, high =>
    if low < high then do
      let middle := low + (high - low) / 2
      if ← holds middle then bisect holds fuel (middle + 1) high else bisect holds fuel low middle
    else .ok low

/-- Strides of 1, 3, 7 and so on, for as long as a property of them holds, up to a limit: the last
stride for which it does, and the one after it. -/
def strides (holds : Nat → Except ε Bool) (limit : Nat) : Nat → Nat → Nat → Except ε (Nat × Nat)
  | 0, last, next => .ok (last, min next limit)
  | fuel + 1, last, next =>
    if next < limit then do
      if ← holds next then strides holds limit fuel next (2 * next + 1) else return (last, next)
    else .ok (last, limit)

/-- The place where a property of the first `size` places ends, searched from a hint on. -/
def boundary (holds : Nat → Except ε Bool) (size hint : Nat) : Except ε Nat := do
  if ← holds hint then
    let (last, next) ← strides (fun k => holds (hint + k)) (size - hint) size 0 1
    bisect holds size (hint + last + 1) (hint + next)
  else
    let fails (k : Nat) : Except ε Bool := (holds (hint - k)).map (!·)
    let (last, next) ← strides fails (hint + 1) size 0 1
    bisect holds size (hint + 1 - next) (hint - last)

section

variable (less : α → α → Except ε Bool)

/-- Whether the item at a place precedes a key. -/
def precedes (items : Array α) (key : α) (place : Nat) : Except ε Bool :=
  match items[place]? with
  | some item => less item key
  | none => .ok false

/-- Whether the item at a place is not behind a key. -/
def reaches (items : Array α) (key : α) (place : Nat) : Except ε Bool :=
  match items[place]? with
  | some item => (less key item).map (!·)
  | none => .ok false

/-- The items that go on in one direction: each precedes the one before it, or none does. -/
def runTail (descending : Bool) (last : α) : List α → Except ε (List α × List α)
  | [] => .ok ([], [])
  | item :: rest => do
    if (← less item last) == descending then
      let (run, others) ← runTail descending item rest
      return (item :: run, others)
    else return ([], item :: rest)

/-- The first run of a list in ascending order, and what follows it. -/
def firstRun : List α → Except ε (List α × List α)
  | a :: b :: rest => do
    let descending ← less b a
    let (run, others) ← runTail less descending b rest
    let whole := a :: b :: run
    return (if descending then whole.reverse else whole, others)
  | items => .ok (items, [])

/-- An item goes behind those that it does not precede. -/
def insert (sorted : List α) (item : α) : Except ε (List α) := do
  let size := sorted.length
  let place ← bisect (reaches less sorted.toArray item) (size + 1) 0 size
  return sorted.take place ++ item :: sorted.drop place

/-- Puts in the next items, so many of them at most. What is left comes second. -/
def fill (run : List α) (wanted : Nat) (others : List α) : Except ε (List α × List α) := do
  let missing := wanted - run.length
  return (← (others.take missing).foldlM (insert less) run, others.drop missing)

/-- The length that runs are filled up to: that of the list, halved down to less than sixty-four,
and one more if a half was lost on the way. -/
def leastRun : Nat → Nat → Nat → Nat
  | 0, lost, n => n + lost
  | fuel + 1, lost, n => if n < 64 then n + lost else leastRun fuel (max lost (n % 2)) (n / 2)

/-- A merge goes item by item, counting how often either run has won in a row, or in leaps. -/
inductive Pace
  | stepping (lefts rights : Nat)
  | leaping

/-- So many items at once are worth another leap. -/
def worthLeaping : Nat := 7

/-- Merges two runs from their front. The items taken over are in reverse. It leaps once a run has
won as often in a row as the patience says, which wears off with leaps that pay and grows with
others. The last item of the left run is the last one of all. -/
def mergeUp : Nat → Pace → Nat → List α → List α → List α → Except ε (List α × Nat)
  | fuel + 1, .stepping lefts rights, patience, taken, a :: left, b :: right => do
    if ← less b a then
      if right.isEmpty then return ((b :: taken).reverse ++ a :: left, patience)
      if patience ≤ rights + 1 then
        mergeUp fuel .leaping (patience + 1) (b :: taken) (a :: left) right
      else mergeUp fuel (.stepping 0 (rights + 1)) patience (b :: taken) (a :: left) right
    else
      if left.length = 1 then return ((a :: taken).reverse ++ b :: right ++ left, patience)
      if patience ≤ lefts + 1 then
        mergeUp fuel .leaping (patience + 1) (a :: taken) left (b :: right)
      else mergeUp fuel (.stepping (lefts + 1) 0) patience (a :: taken) left (b :: right)
  | fuel + 1, .leaping, patience, taken, left, b :: right => do
    let patience := max 1 (patience - 1)
    let lefts ← boundary (reaches less left.toArray b) left.length 0
    let taken := (left.take lefts).reverse ++ taken
    match left.drop lefts with
    | [] => return (taken.reverse ++ b :: right, patience)
    | [a] => return (taken.reverse ++ b :: right ++ [a], patience)
    | a :: left =>
      if right.isEmpty then return ((b :: taken).reverse ++ a :: left, patience)
      let rights ← boundary (precedes less right.toArray a) right.length 0
      let taken := (right.take rights).reverse ++ b :: taken
      let right := right.drop rights
      if right.isEmpty then return (taken.reverse ++ a :: left, patience)
      if left.length = 1 then return ((a :: taken).reverse ++ right ++ left, patience)
      if worthLeaping ≤ lefts ∨ worthLeaping ≤ rights then
        mergeUp fuel .leaping patience (a :: taken) left right
      else mergeUp fuel (.stepping 0 0) (patience + 1) (a :: taken) left right
  | _, _, patience, taken, left, right => .ok (taken.reverse ++ left ++ right, patience)

/-- Merges two runs from their back. Both are given in reverse. The last item of the right run to
be left is the first one of all. -/
def mergeDown : Nat → Pace → Nat → List α → List α → List α → Except ε (List α × Nat)
  | fuel + 1, .stepping lefts rights, patience, taken, a :: left, b :: right => do
    if ← less b a then
      if left.isEmpty then return ((b :: right).reverse ++ a :: taken, patience)
      if patience ≤ lefts + 1 then
        mergeDown fuel .leaping (patience + 1) (a :: taken) left (b :: right)
      else mergeDown fuel (.stepping (lefts + 1) 0) patience (a :: taken) left (b :: right)
    else
      if right.length = 1 then return (right ++ (a :: left).reverse ++ b :: taken, patience)
      if patience ≤ rights + 1 then
        mergeDown fuel .leaping (patience + 1) (b :: taken) (a :: left) right
      else mergeDown fuel (.stepping 0 (rights + 1)) patience (b :: taken) (a :: left) right
  | fuel + 1, .leaping, patience, taken, left, b :: right => do
    let patience := max 1 (patience - 1)
    let size := left.length
    let lefts := size - (← boundary (reaches less left.reverse.toArray b) size (size - 1))
    let taken := (left.take lefts).reverse ++ taken
    match left.drop lefts with
    | [] => return ((b :: right).reverse ++ taken, patience)
    | a :: left =>
      if right.length = 1 then return (right ++ (a :: left).reverse ++ b :: taken, patience)
      let size := right.length
      let rights := size - (← boundary (precedes less right.reverse.toArray a) size (size - 1))
      let taken := (right.take rights).reverse ++ b :: taken
      let right := right.drop rights
      if right.length ≤ 1 then return (right ++ (a :: left).reverse ++ taken, patience)
      if left.isEmpty then return (right.reverse ++ a :: taken, patience)
      if worthLeaping ≤ lefts ∨ worthLeaping ≤ rights then
        mergeDown fuel .leaping patience (a :: taken) left right
      else mergeDown fuel (.stepping 0 0) (patience + 1) (a :: taken) left right
  | _, _, patience, taken, left, right =>
    .ok (left.reverse ++ right.reverse ++ taken, patience)

/-- Merges two runs of which the first item of the right one is the first of all, and the last
item of the left one the last. The shorter one leads. -/
def mergeOverlap (patience : Nat) (left right : List α) : Except ε (List α × Nat) :=
  let fuel := left.length + right.length
  if left.length ≤ right.length then
    match left, right with
    | [a], _ => .ok (right ++ [a], patience)
    | _, [b] => .ok (b :: left, patience)
    | _, b :: right => mergeUp less fuel (.stepping 0 0) patience [b] left right
    | _, [] => .ok (left, patience)
  else
    match left.reverse, right.reverse with
    | left, [b] => .ok (b :: left.reverse, patience)
    | a :: left, right => mergeDown less fuel (.stepping 0 0) patience [a] left right
    | [], right => .ok (right.reverse, patience)

/-- Merges neighbours. What is in place already at either end stays out of it. -/
def merge (patience : Nat) (left right : List α) : Except ε (List α × Nat) := do
  match right.head? with
  | none => return (left, patience)
  | some first =>
    let start ← boundary (reaches less left.toArray first) left.length 0
    let overlap := left.drop start
    match overlap.getLast? with
    | none => return (left ++ right, patience)
    | some last =>
      let size := right.length
      let stop ← boundary (precedes less right.toArray last) size (size - 1)
      if stop = 0 then return (left ++ right, patience)
      let (merged, patience) ← mergeOverlap less patience overlap (right.take stop)
      return (left.take start ++ merged ++ right.drop stop, patience)

/-- The first binary digit at which two positions in the list, as shares of its length, differ. -/
def firstDifference (length : Nat) : Nat → Nat → Nat → Nat
  | 0, _, _ => 1
  | fuel + 1, a, b =>
    if length ≤ a then firstDifference length fuel (2 * (a - length)) (2 * (b - length)) + 1
    else if length ≤ b then 1
    else firstDifference length fuel (2 * a) (2 * b) + 1

/-- The depth in a balanced tree of the node between two neighbours: that of the boundary between
their middles. -/
def nodeDepth (length start left right : Nat) : Nat :=
  let a := 2 * start + left
  firstDifference length (length + 1) a (a + left + right)

/-- Runs that wait to be merged, the last one first, each with the depth of the node behind it. -/
structure Waiting (α : Type) where
  runs : List (List α × Nat)
  patience : Nat

/-- Merges the last two runs for as long as the node between them is deeper than the new one. -/
def settle (depth : Nat) : Nat → Waiting α → Except ε (Waiting α)
  | fuel + 1, ⟨(right, behind) :: (left, between) :: earlier, patience⟩ =>
    if depth < between then do
      let (merged, patience) ← merge less patience left right
      settle depth fuel ⟨(merged, behind) :: earlier, patience⟩
    else .ok ⟨(right, behind) :: (left, between) :: earlier, patience⟩
  | _, waiting => .ok waiting

/-- Another run joins those that wait. -/
def push (length : Nat) (waiting : Waiting α) (run : List α) : Except ε (Waiting α) :=
  match waiting.runs with
  | [] => .ok ⟨[(run, 0)], waiting.patience⟩
  | (last, _) :: earlier => do
    let start := earlier.foldl (fun total run => total + run.1.length) 0
    let depth := nodeDepth length start last.length run.length
    let settled ← settle less depth waiting.runs.length waiting
    match settled.runs with
    | [] => return ⟨[(run, 0)], settled.patience⟩
    | (last, _) :: earlier => return ⟨(run, 0) :: (last, depth) :: earlier, settled.patience⟩

/-- Merges all runs that wait, of three the two whose lengths are closer. -/
def finish : Nat → Waiting α → Except ε (List α)
  | fuel + 1, ⟨c :: b :: a :: earlier, patience⟩ => do
    if a.1.length < c.1.length then
      let (merged, patience) ← merge less patience a.1 b.1
      finish fuel ⟨c :: (merged, 0) :: earlier, patience⟩
    else
      let (merged, patience) ← merge less patience b.1 c.1
      finish fuel ⟨(merged, 0) :: a :: earlier, patience⟩
  | _, ⟨[b, a], patience⟩ => (merge less patience a.1 b.1).map (·.1)
  | _, waiting => .ok (waiting.runs.reverse.map (·.1)).flatten

/-- Takes run after run off the list. -/
def takeRuns (length least : Nat) : Nat → Waiting α → List α → Except ε (Waiting α)
  | 0, waiting, _ => .ok waiting
  | _, waiting, [] => .ok waiting
  | fuel + 1, waiting, items => do
    let (run, others) ← firstRun less items
    let (run, others) ← fill less run least others
    takeRuns length least fuel (← push less length waiting run) others

/-- Stable sorting by a comparison that may fail. Runs that are in order already are filled up and
merged so that their lengths stay balanced. What comes out is told for every comparison, also for
one that is no order. -/
def sort (items : List α) : Except ε (List α) := do
  let length := items.length
  let waiting ← takeRuns less length (leastRun length 0 length) length ⟨[], worthLeaping⟩ items
  finish less length waiting

end

end Metrology.Sorting
