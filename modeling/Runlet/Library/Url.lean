import Runlet.Library.Text

/-!
# The scheme and the path of a URL

`urllib.parse.urlparse`, as far as the scheme and the path go.  A URL is
`scheme://netloc/path;params?query#fragment`; every part may be missing, and a network location is
recognised only behind `//`.  Which network locations are accepted (their brackets have to match,
and their characters must not decompose into delimiters) is a parameter: parsing any other one
raises.
-/

namespace Url

structure Parsed where
  scheme : String := ""
  path : String
  deriving DecidableEq

/-- Leading blanks and controls go, and so do tabs and line ends anywhere. -/
def sanitize (l : List Char) : List Char :=
  (l.dropWhile fun c => c.toNat ≤ 0x20).filter fun c => c != '\t' && c != '\r' && c != '\n'

def isAsciiLetter (c : Char) : Bool :=
  ('a' ≤ c && c ≤ 'z') || ('A' ≤ c && c ≤ 'Z')

def isSchemeChar (c : Char) : Bool :=
  isAsciiLetter c || ('0' ≤ c && c ≤ '9') || c == '+' || c == '-' || c == '.'

/-- The scheme, without its colon, and the rest. -/
def splitScheme (l : List Char) : String × List Char :=
  let head := l.takeWhile (· != ':')
  match l.dropWhile (· != ':') with
  | ':' :: rest =>
    if head.head?.any isAsciiLetter && head.all isSchemeChar then
      (Text.lower (String.ofList head), rest)
    else ("", l)
  | _ => ("", l)

def isNetlocEnd (c : Char) : Bool :=
  c == '/' || c == '?' || c == '#'

/-- The network location behind `//`, and the rest. -/
def splitNetloc : List Char → String × List Char
  | '/' :: '/' :: l =>
    (String.ofList (l.takeWhile (! isNetlocEnd ·)), l.dropWhile (! isNetlocEnd ·))
  | l => ("", l)

/-- The schemes whose last path segment may carry parameters. -/
def usesParams : List String :=
  ["", "ftp", "hdl", "prospero", "http", "imap", "https", "shttp", "rtsp", "rtsps", "rtspu", "sip",
    "sips", "mms", "sftp", "tel"]

/-- Cut the parameters off the last segment. -/
def dropParams (l : List Char) : List Char :=
  let segment := l.rtakeWhile (· != '/')
  l.take (l.length - segment.length) ++ segment.takeWhile (· != ';')

def urlparse (acceptsNetloc : String → Bool) (url : String) : Except String Parsed :=
  let (scheme, rest) := splitScheme (sanitize url.toList)
  let (netloc, rest) := splitNetloc rest
  if netloc = "" || acceptsNetloc netloc then
    let path := (rest.takeWhile (· != '#')).takeWhile (· != '?')
    .ok
      { scheme := scheme
        path := String.ofList (if scheme ∈ usesParams then dropParams path else path) }
  else .error "ValueError"

example : urlparse (fun _ => true) "https://app.example/users/list;v=1?tab=2#top" =
    .ok { scheme := "https", path := "/users/list" } := by decide

/-! ## Text that starts with a slash -/

variable {acceptsNetloc : String → Bool}

/-- The network location of a URL. -/
def netlocOf (url : String) : String :=
  (splitNetloc (splitScheme (sanitize url.toList)).2).1

/-- Reading a URL does not raise. -/
def IsReadable (acceptsNetloc : String → Bool) (url : String) : Prop :=
  ∃ parsed, urlparse acceptsNetloc url = .ok parsed

theorem isReadable_iff (url : String) :
    IsReadable acceptsNetloc url ↔ netlocOf url = "" ∨ acceptsNetloc (netlocOf url) = true := by
  unfold IsReadable urlparse netlocOf
  dsimp only
  split
  · rename_i hnetloc
    rw [Bool.or_eq_true, decide_eq_true_eq] at hnetloc
    exact iff_of_true ⟨_, rfl⟩ hnetloc
  · rename_i hnetloc
    rw [Bool.or_eq_true, decide_eq_true_eq] at hnetloc
    refine iff_of_false ?_ hnetloc
    rintro ⟨_, h⟩
    cases h

/-- Such text has no scheme. -/
theorem splitScheme_slash (l : List Char) : splitScheme ('/' :: l) = ("", '/' :: l) := by
  unfold splitScheme
  dsimp only
  split
  · rw [List.takeWhile_cons_of_pos (by decide), List.head?_cons, if_neg (by
      rw [Option.any_some, show isAsciiLetter '/' = false from by decide, Bool.false_and]
      exact Bool.false_ne_true)]
  · rfl

theorem sanitize_slash (l : List Char) :
    sanitize ('/' :: l) = '/' :: l.filter fun c => c != '\t' && c != '\r' && c != '\n' := by
  unfold sanitize
  rw [List.dropWhile_cons_of_neg (by decide), List.filter_cons_of_pos (by decide)]

theorem takeWhile_append_slashes {tail : List Char} (htail : ∀ c ∈ tail, c = '/') (l : List Char) :
    (l ++ tail).takeWhile (! isNetlocEnd ·) = l.takeWhile (! isNetlocEnd ·) := by
  have hnone : tail.takeWhile (! isNetlocEnd ·) = [] := by
    cases tail with
    | nil => rfl
    | cons c tail =>
      rw [htail c List.mem_cons_self]
      exact List.takeWhile_cons_of_neg (by decide)
  rw [List.takeWhile_append]
  split
  · rename_i hlength
    rw [hnone, List.append_nil]
    exact ((List.takeWhile_prefix _).eq_of_length hlength).symm
  · rfl

theorem splitNetloc_of_ne {c : Char} (hc : c ≠ '/') (l : List Char) :
    (splitNetloc (c :: l)).1 = "" := by
  unfold splitNetloc
  split
  · rename_i h
    exact absurd (List.cons.inj h).1 hc
  · rfl

theorem splitNetloc_slash_of_ne {c : Char} (hc : c ≠ '/') (l : List Char) :
    (splitNetloc ('/' :: c :: l)).1 = "" := by
  unfold splitNetloc
  split
  · rename_i h
    exact absurd (List.cons.inj (List.cons.inj h).2).1 hc
  · rfl

/-- Slashes at the end are no part of a network location. -/
theorem splitNetloc_append_slashes {tail : List Char} (htail : ∀ c ∈ tail, c = '/')
    (l : List Char) : (splitNetloc (l ++ tail)).1 = (splitNetloc l).1 := by
  have hslashes : (splitNetloc tail).1 = "" := by
    match tail, htail with
    | [], _ => rfl
    | [c], h =>
      rw [h c List.mem_cons_self]
      rfl
    | c :: d :: tail, h =>
      rw [h c List.mem_cons_self, h d (List.mem_cons_of_mem _ List.mem_cons_self)]
      exact congrArg String.ofList (@takeWhile_append_slashes tail
        (fun e he => h e (List.mem_cons_of_mem _ (List.mem_cons_of_mem _ he))) [])
  match l with
  | [] => exact hslashes
  | [c] =>
    by_cases hc : c = '/'
    · subst hc
      match tail, htail with
      | [], _ => rfl
      | d :: tail, h =>
        rw [h d List.mem_cons_self]
        exact congrArg String.ofList (@takeWhile_append_slashes tail
          (fun e he => h e (List.mem_cons_of_mem _ he)) [])
    · rw [List.singleton_append, splitNetloc_of_ne hc, splitNetloc_of_ne hc]
  | c :: d :: l =>
    by_cases hc : c = '/'
    · subst hc
      by_cases hd : d = '/'
      · subst hd
        exact congrArg String.ofList (takeWhile_append_slashes htail l)
      · rw [List.cons_append, List.cons_append, splitNetloc_slash_of_ne hd,
          splitNetloc_slash_of_ne hd]
    · rw [List.cons_append, splitNetloc_of_ne hc, splitNetloc_of_ne hc]

/-- Slashes at the end do not matter to the network location. -/
theorem netlocOf_append_slashes {url url' : String} {tail : List Char}
    (htail : ∀ c ∈ tail, c = '/') (hslash : Text.startsWith "/" url = true)
    (h : url'.toList = url.toList ++ tail) : netlocOf url' = netlocOf url := by
  obtain ⟨l, hl⟩ := Text.startsWith_slash_iff.mp hslash
  have hkept : tail.filter (fun c => c != '\t' && c != '\r' && c != '\n') = tail := by
    refine List.filter_eq_self.mpr fun c hc => ?_
    rw [htail c hc]
    decide
  unfold netlocOf
  rw [h, hl, List.cons_append, sanitize_slash, sanitize_slash, splitScheme_slash, splitScheme_slash,
    List.filter_append, hkept, ← List.cons_append]
  exact splitNetloc_append_slashes htail _

/-! ## The path -/

theorem mem_of_mem_dropParams {c : Char} {l : List Char} (h : c ∈ dropParams l) : c ∈ l := by
  unfold dropParams at h
  rcases List.mem_append.mp h with h | h
  · exact List.mem_of_mem_take h
  · exact (List.rtakeWhile_suffix _ l).subset ((List.takeWhile_sublist _).subset h)

/-- A path holds neither a query nor a fragment. -/
theorem notMem_path {url : String} {parsed : Parsed}
    (h : urlparse acceptsNetloc url = .ok parsed) :
    '?' ∉ parsed.path.toList ∧ '#' ∉ parsed.path.toList := by
  unfold urlparse at h
  dsimp only at h
  generalize (splitNetloc (splitScheme (sanitize url.toList)).2).2 = rest at h
  have hcut : ∀ c ∈ (rest.takeWhile (· != '#')).takeWhile (· != '?'), c ≠ '?' ∧ c ≠ '#' := by
    intro c hc
    refine ⟨bne_iff_ne.mp (List.mem_takeWhile_imp (p := (· != '?')) hc),
      bne_iff_ne.mp ?_⟩
    exact List.mem_takeWhile_imp (p := (· != '#')) ((List.takeWhile_sublist _).subset hc)
  split at h
  · rw [← Except.ok.inj h]
    dsimp only
    rw [String.toList_ofList]
    have hpath : ∀ c ∈ (if (splitScheme (sanitize url.toList)).1 ∈ usesParams then
        dropParams ((rest.takeWhile (· != '#')).takeWhile (· != '?'))
      else (rest.takeWhile (· != '#')).takeWhile (· != '?')), c ≠ '?' ∧ c ≠ '#' := by
      split
      · exact fun c hc => hcut c (mem_of_mem_dropParams hc)
      · exact hcut
    exact ⟨fun hc => (hpath _ hc).1 rfl, fun hc => (hpath _ hc).2 rfl⟩
  · cases h

/-- Text that starts with a slash has no scheme. -/
theorem scheme_of_slash {url : String} {parsed : Parsed} (hslash : Text.startsWith "/" url = true)
    (h : urlparse acceptsNetloc url = .ok parsed) : parsed.scheme = "" := by
  obtain ⟨l, hl⟩ := Text.startsWith_slash_iff.mp hslash
  unfold urlparse at h
  dsimp only at h
  rw [hl, sanitize_slash, splitScheme_slash] at h
  split at h
  · rw [← Except.ok.inj h]
  · cases h

end Url
