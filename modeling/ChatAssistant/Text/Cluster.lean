import ChatAssistant.Text.ClusterData

/-!
# Grapheme clusters

A cluster is what a reader sees as one character: a letter with its marks, a syllable, a flag, or a
sequence of pictographs.  The boundaries are those of extended grapheme clusters, decided from left to
right by the class of the next character and a summary of the characters before it.
-/

namespace ChatAssistant.Text

/-- The classes of Grapheme_Cluster_Break, and pictographs. -/
inductive ClusterClass
  | carriageReturn
  | lineFeed
  | control
  | extend
  | joiner
  | regional
  | prepend
  | spacingMark
  | leading
  | vowel
  | trailing
  | openSyllable
  | closedSyllable
  | pictograph
  | other
  deriving DecidableEq

/-- The class of a precomposed Hangul syllable: every twenty-eighth one ends with its vowel. -/
def syllableClass (n : Nat) : ClusterClass :=
  if (n - 0xAC00) % 28 = 0 then .openSyllable else .closedSyllable

/-- The class of a character. -/
def clusterClass (c : Char) : ClusterClass :=
  let n := c.toNat
  if c = '\r' then .carriageReturn
  else if c = '\n' then .lineFeed
  else if 0x20 ≤ n ∧ n < 0x7F then .other
  else if n = 0x200D then .joiner
  else if 0x1F1E6 ≤ n ∧ n ≤ 0x1F1FF then .regional
  else if (0x1100 ≤ n ∧ n ≤ 0x115F) ∨ (0xA960 ≤ n ∧ n ≤ 0xA97C) then .leading
  else if (0x1160 ≤ n ∧ n ≤ 0x11A7) ∨ (0xD7B0 ≤ n ∧ n ≤ 0xD7C6) ∨ n = 0x16D63 ∨
      (0x16D67 ≤ n ∧ n ≤ 0x16D6A) then .vowel
  else if (0x11A8 ≤ n ∧ n ≤ 0x11FF) ∨ (0xD7CB ≤ n ∧ n ≤ 0xD7FB) then .trailing
  else if 0xAC00 ≤ n ∧ n ≤ 0xD7A3 then syllableClass n
  else if clusterControlSet.contains c then .control
  else if clusterExtendSet.contains c then .extend
  else if clusterPrependSet.contains c then .prepend
  else if clusterSpacingMarkSet.contains c then .spacingMark
  else if pictographSet.contains c then .pictograph
  else .other

/-- How far a conjunct has come: nothing, a consonant, or a consonant with a linker. -/
inductive Conjunct
  | absent
  | consonant
  | linked
  deriving DecidableEq

/-- What the characters before a place decide about it. -/
structure ClusterState where
  last : ClusterClass
  /-- The last characters are a pictograph, marks on it, and at most one joiner. -/
  hasPictograph : Bool
  /-- The last characters are an odd number of regional indicators. -/
  hasHalfFlag : Bool
  conjunct : Conjunct

namespace ClusterState

/-- The conjunct after a further character. -/
def nextConjunct (conjunct : Conjunct) (c : Char) (cls : ClusterClass) : Conjunct :=
  if conjunctConsonantSet.contains c then .consonant
  else if conjunct = .absent then .absent
  else if conjunctLinkerSet.contains c then .linked
  else if cls = .joiner ∨ (cls = .extend ∧ c ≠ '\u200C') then conjunct
  else .absent

/-- The summary after a first character. -/
def start (c : Char) : ClusterState :=
  let cls := clusterClass c
  ⟨cls, cls = .pictograph, cls = .regional, nextConjunct .absent c cls⟩

/-- The summary after a further character. -/
def next (s : ClusterState) (c : Char) : ClusterState :=
  let cls := clusterClass c
  ⟨cls,
    cls = .pictograph || (s.hasPictograph && s.last ≠ .joiner && (cls = .extend || cls = .joiner)),
    cls = .regional && !s.hasHalfFlag,
    nextConjunct s.conjunct c cls⟩

/-- A character that stands alone. -/
def isAlone : ClusterClass → Bool
  | .carriageReturn => true
  | .lineFeed => true
  | .control => true
  | _ => false

/-- The parts of a syllable, in their order. -/
def joinsSyllable : ClusterClass → ClusterClass → Bool
  | .leading, .leading => true
  | .leading, .vowel => true
  | .leading, .openSyllable => true
  | .leading, .closedSyllable => true
  | .openSyllable, .vowel => true
  | .openSyllable, .trailing => true
  | .vowel, .vowel => true
  | .vowel, .trailing => true
  | .closedSyllable, .trailing => true
  | .trailing, .trailing => true
  | _, _ => false

/-- There is no boundary before the character. -/
def joins (s : ClusterState) (c : Char) : Bool :=
  let cls := clusterClass c
  if isAlone s.last || isAlone cls then s.last = .carriageReturn && cls = .lineFeed
  else
    joinsSyllable s.last cls ||
      cls = .extend || cls = .joiner || cls = .spacingMark || s.last = .prepend ||
      (s.conjunct = .linked && conjunctConsonantSet.contains c) ||
      (s.hasPictograph && s.last = .joiner && cls = .pictograph) ||
      (s.hasHalfFlag && cls = .regional)

end ClusterState

/-- The clusters of a text; `cluster` holds the one under way, last character first. -/
def clustersFrom (state : ClusterState) (cluster : List Char) : List Char → List (List Char)
  | [] => [cluster.reverse]
  | c :: rest =>
    if state.joins c then clustersFrom (state.next c) (c :: cluster) rest
    else cluster.reverse :: clustersFrom (state.next c) [c] rest

/-- The clusters of a text. -/
def clusters : List Char → List (List Char)
  | [] => []
  | c :: rest => clustersFrom (.start c) [c] rest

end ChatAssistant.Text
