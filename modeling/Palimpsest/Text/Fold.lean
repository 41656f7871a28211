import Palimpsest.Text.CodeTable

/-!
# Case folding

Two characters are equal up to case when they fold to the same character. The table is that of
simple folds of the Unicode character database: each run gives the code points that fold and what
the first of them folds to; the others keep their distance to it. A run with `/2` takes every
second code point only.
-/

namespace Palimpsest.Text

/-- A run of code points that fold at one distance. -/
structure FoldRun where
  first : Nat
  last : Nat
  stride : Nat
  target : Nat

namespace FoldRun

/-- What the code point folds to by this run, if it belongs to it. -/
def image? (run : FoldRun) (code : Nat) : Option Nat :=
  if run.first ≤ code && code ≤ run.last && (code - run.first) % run.stride == 0 then
    some (run.target + (code - run.first))
  else none

/-- The code point that folds to the given one by this run, if there is one. -/
def origin? (run : FoldRun) (code : Nat) : Option Nat :=
  if run.target ≤ code && code ≤ run.target + (run.last - run.first) &&
      (code - run.target) % run.stride == 0 then
    some (run.first + (code - run.target))
  else none

/-- A run from its written form, `first-last:target` or `first-last/2:target`. -/
def ofText (text : String) : FoldRun :=
  match text.splitOn ":" with
  | [range, target] =>
    let (range, stride) :=
      match range.splitOn "/" with
      | [range, _] => (range, 2)
      | _ => (range, 1)
    match range.splitOn "-" with
    | [first, last] => ⟨ofHex first, ofHex last, stride, ofHex target⟩
    | _ => ⟨1, 0, 1, 0⟩
  | _ => ⟨1, 0, 1, 0⟩

end FoldRun

def foldRuns : List FoldRun := (wordsOf
  ["41-5a:61 b5-b5:3bc c0-d6:e0 d8-de:f8 100-12e/2:101 132-136/2:133 139-147/2:13a 14a-176/2:14b",
   "178-178:ff 179-17d/2:17a 17f-17f:73 181-181:253 182-184/2:183 186-186:254 187-187:188",
   "189-18a:256 18b-18b:18c 18e-18e:1dd 18f-18f:259 190-190:25b 191-191:192 193-193:260 194-194:263",
   "196-196:269 197-197:268 198-198:199 19c-19c:26f 19d-19d:272 19f-19f:275 1a0-1a4/2:1a1",
   "1a6-1a6:280 1a7-1a7:1a8 1a9-1a9:283 1ac-1ac:1ad 1ae-1ae:288 1af-1af:1b0 1b1-1b2:28a",
   "1b3-1b5/2:1b4 1b7-1b7:292 1b8-1b8:1b9 1bc-1bc:1bd 1c4-1c4:1c6 1c5-1c5:1c6 1c7-1c7:1c9",
   "1c8-1c8:1c9 1ca-1ca:1cc 1cb-1db/2:1cc 1de-1ee/2:1df 1f1-1f1:1f3 1f2-1f4/2:1f3 1f6-1f6:195",
   "1f7-1f7:1bf 1f8-21e/2:1f9 220-220:19e 222-232/2:223 23a-23a:2c65 23b-23b:23c 23d-23d:19a",
   "23e-23e:2c66 241-241:242 243-243:180 244-244:289 245-245:28c 246-24e/2:247 345-345:3b9",
   "370-372/2:371 376-376:377 37f-37f:3f3 386-386:3ac 388-38a:3ad 38c-38c:3cc 38e-38f:3cd",
   "391-3a1:3b1 3a3-3ab:3c3 3c2-3c2:3c3 3cf-3cf:3d7 3d0-3d0:3b2 3d1-3d1:3b8 3d5-3d5:3c6 3d6-3d6:3c0",
   "3d8-3ee/2:3d9 3f0-3f0:3ba 3f1-3f1:3c1 3f4-3f4:3b8 3f5-3f5:3b5 3f7-3f7:3f8 3f9-3f9:3f2",
   "3fa-3fa:3fb 3fd-3ff:37b 400-40f:450 410-42f:430 460-480/2:461 48a-4be/2:48b 4c0-4c0:4cf",
   "4c1-4cd/2:4c2 4d0-52e/2:4d1 531-556:561 10a0-10c5:2d00 10c7-10c7:2d27 10cd-10cd:2d2d",
   "13f8-13fd:13f0 1c80-1c80:432 1c81-1c81:434 1c82-1c82:43e 1c83-1c84:441 1c85-1c85:442",
   "1c86-1c86:44a 1c87-1c87:463 1c88-1c88:a64b 1c90-1cba:10d0 1cbd-1cbf:10fd 1e00-1e94/2:1e01",
   "1e9b-1e9b:1e61 1e9e-1e9e:df 1ea0-1efe/2:1ea1 1f08-1f0f:1f00 1f18-1f1d:1f10 1f28-1f2f:1f20",
   "1f38-1f3f:1f30 1f48-1f4d:1f40 1f59-1f5f/2:1f51 1f68-1f6f:1f60 1f88-1f8f:1f80 1f98-1f9f:1f90",
   "1fa8-1faf:1fa0 1fb8-1fb9:1fb0 1fba-1fbb:1f70 1fbc-1fbc:1fb3 1fbe-1fbe:3b9 1fc8-1fcb:1f72",
   "1fcc-1fcc:1fc3 1fd8-1fd9:1fd0 1fda-1fdb:1f76 1fe8-1fe9:1fe0 1fea-1feb:1f7a 1fec-1fec:1fe5",
   "1ff8-1ff9:1f78 1ffa-1ffb:1f7c 1ffc-1ffc:1ff3 2126-2126:3c9 212a-212a:6b 212b-212b:e5",
   "2132-2132:214e 2160-216f:2170 2183-2183:2184 24b6-24cf:24d0 2c00-2c2f:2c30 2c60-2c60:2c61",
   "2c62-2c62:26b 2c63-2c63:1d7d 2c64-2c64:27d 2c67-2c6b/2:2c68 2c6d-2c6d:251 2c6e-2c6e:271",
   "2c6f-2c6f:250 2c70-2c70:252 2c72-2c72:2c73 2c75-2c75:2c76 2c7e-2c7f:23f 2c80-2ce2/2:2c81",
   "2ceb-2ced/2:2cec 2cf2-2cf2:2cf3 a640-a66c/2:a641 a680-a69a/2:a681 a722-a72e/2:a723",
   "a732-a76e/2:a733 a779-a77b/2:a77a a77d-a77d:1d79 a77e-a786/2:a77f a78b-a78b:a78c a78d-a78d:265",
   "a790-a792/2:a791 a796-a7a8/2:a797 a7aa-a7aa:266 a7ab-a7ab:25c a7ac-a7ac:261 a7ad-a7ad:26c",
   "a7ae-a7ae:26a a7b0-a7b0:29e a7b1-a7b1:287 a7b2-a7b2:29d a7b3-a7b3:ab53 a7b4-a7c2/2:a7b5",
   "a7c4-a7c4:a794 a7c5-a7c5:282 a7c6-a7c6:1d8e a7c7-a7c9/2:a7c8 a7d0-a7d0:a7d1 a7d6-a7d8/2:a7d7",
   "a7f5-a7f5:a7f6 ab70-abbf:13a0 ff21-ff3a:ff41 10400-10427:10428 104b0-104d3:104d8",
   "10570-1057a:10597 1057c-1058a:105a3 1058c-10592:105b3 10594-10595:105bb 10c80-10cb2:10cc0",
   "118a0-118bf:118c0 16e40-16e5f:16e60 1e900-1e921:1e922"]).map FoldRun.ofText

def fold (c : Char) : Char :=
  match foldRuns.findSome? fun run => run.image? c.toNat with
  | some code => Char.ofNat code
  | none => c

/-- All characters that are equal to the given one up to case. -/
def caseVariants (c : Char) : List Char :=
  let target := fold c
  target :: foldRuns.filterMap fun run => (run.origin? target.toNat).map Char.ofNat

end Palimpsest.Text
