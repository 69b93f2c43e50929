import Highlight.Chars.Ranges

/-!
# Lower case

The simple lower-case mapping of Unicode 14, which case-blind patterns compare by: two
characters match without regard to case when their lower-case forms are equal. The map is
stored as runs of code points that move by the same distance, every code point or every
second one (`CaseRun`). `lowerPreimage` lists the characters whose lower-case form is a
given one, which a case-blind class needs to test its ranges.
-/

set_option autoImplicit false

namespace Highlight.Chars

/-- Code points `lo`, `lo + step`, … up to `hi` all map to themselves moved by `shift`. -/
structure CaseRun where
  /-- The first code point of the run. -/
  lo : Nat
  /-- The last code point of the run. -/
  hi : Nat
  /-- The distance between two code points of the run. -/
  step : Nat
  /-- How far each code point of the run moves. -/
  shift : Int
  deriving Repr, Inhabited

/-- The runs that packed numbers stand for (see `Ranges.unpack`), from the code point `next` on,
after `out`: for each run, the gap before it, its last code point less its first, its step, and
its shift, doubled and one more when it is negative. -/
def runsFrom : List Nat → Nat → Array CaseRun → Array CaseRun
  | gap :: len :: step :: shift :: rest, next, out =>
    let shift : Int := if shift % 2 = 0 then ((shift / 2 : Nat) : Int) else -((shift / 2 : Nat) : Int)
    runsFrom rest (next + gap + len + 1) (out.push ⟨next + gap, next + gap + len, step, shift⟩)
  | _, _, out => out

/-- The runs of the lower-case map, sorted by their first code point, packed. -/
def lowerRuns : Array CaseRun := runsFrom (Ranges.numbersFrom
  "d;#ck@8#c#(#cCP$$#!#oN#&$$$0$$$N$$#!#m@!&$$%!#od!$$$#!#o[!!#$###oY!!#$$!#l2!!#oS!!#oU!!#$#!#oY!!
  #o^#!#of!!#ob!!#$%!#of!!#p!#!#p$!&$$#!#p,!!#$#!#p,$!#$#!#p,!!#$###p*!$$$#!#p.!!#$%!#$)!#&!!#$#!#
  &!!#$#!#&!2$$$2$$$!#&!$$$#!#lW!!#kL!H$$#!#mR#2$$)!#zj(!!#$#!#nM!!#zj!$!#$#!#oF!!#kf!!#l!!*$$n'$$
  $%!#$*!#m5(!#k'#$#k%#!#k[###kY#2#c#*#cE!#2*8$$'!#kT$!#$#!#1!!#$$$#mR!1#l4!A#cRB$$+V$$#!#@!.$$$k9
  $$$G#k;llSG#txN#!#txN'!#txNt.k*#mjuX!'#2kv#L#nrW$$#nrWnFl($$+!#uoG#k9$$+)#3*'#3,)#3*)#3*'#3-($3*
  )#3:)#3*)#3*)#3*##3!##l)!!#5-%#lA!!#5-##3!##l^.##3!##m.!!#1-##mN!##mJ!!#5n/!#ulX%!#vr-!!#vnW(!#Z
  O1#B5!#$uG;#VkpdQ#k;R!#$#!#y|O!!#ovB!!#y|/$&$$#!#y~R!!#y|[!!#y~X!!#y~V#!#$$!#$*##zjQ!k=$$*$$$&!#
  $knj<N$$5<$$kc.$$%_$$,$$$#!#lxq6!*$$&!#$#!#mow!$$$$%4$$#!#mowZ!!#mox)!!#mowi!!#mowT!!#mowZ#!#mov
  =!!#mow&!!#movC!!#kq,!0$$#!#k<!!#mowX!!#lxrW!$$$(!#$'$$$>!#$zt7;#c|0I#k+kdE#k+l0,#k)#0#k)#(#k)##
  #k)koeT#k[lo!A#czn6A#ckno,C#g".toList 0) 0 #[]

/-- The run of `runs` with index in `[lo, hi)` that holds `c`, by binary search. -/
def findRun (runs : Array CaseRun) (c : Nat) (lo hi : Nat) : Option CaseRun :=
  if _ : lo < hi then
    let mid := (lo + hi) / 2
    match runs[mid]? with
    | none => none
    | some run =>
      if c < run.lo then findRun runs c lo mid
      else if run.hi < c then findRun runs c (mid + 1) hi
      else some run
  else none
termination_by hi - lo

/-- The lower-case form of a code point. -/
def lowerCode (c : Nat) : Nat :=
  match findRun lowerRuns c 0 lowerRuns.size with
  | some run =>
    if (c - run.lo) % run.step == 0 then (Int.ofNat c + run.shift).toNat else c
  | none => c

/-- The lower-case form of a character. -/
def lower (c : Char) : Char :=
  if c.toNat < 128 then c.toLower else Char.ofNat (lowerCode c.toNat)

/-- A text in lower case, character by character. -/
def lowerText (s : String) : String := String.ofList (s.toList.map lower)

/-- The code points other than `y` whose lower-case form is `y`. -/
def lowerPreimage (y : Nat) : List Nat :=
  if y < 128 then
    if 97 ≤ y && y ≤ 122 then
      (y - 32) :: (if y == 107 then [8490] else if y == 105 then [304] else [])
    else []
  else
    lowerRuns.toList.filterMap fun run =>
      let x := Int.ofNat y - run.shift
      if run.shift != 0 && Int.ofNat run.lo ≤ x && x ≤ Int.ofNat run.hi &&
          (x.toNat - run.lo) % run.step == 0 then some x.toNat
      else none

end Highlight.Chars
