import Mathlib

/-!
# JSON pointers (RFC 6901)

A JSON pointer names a place in a JSON document by the reference tokens on the way to it: the
empty pointer names the whole document, and each token after it follows a `/`. Since a token may
itself hold a `/`, it is written with each `~` as `~0` and each `/` as `~1` (`escape`); reading it
back turns them into `~` and `/` again, and a `~` followed by anything else is an error
(`unescape`).

Writing tokens as a pointer (`render`) and reading the pointer (`parse`) gives the tokens back,
whatever characters they hold (`parse_render`): the escaped tokens hold no `/`, so the pointer
splits at its `/`s into exactly them (`List.splitOn_intercalate`), and each reads back to its
token (`unescape_escape`).
-/

namespace JsonPointer

/-- One character of a token, escaped. -/
def escapeChar (c : Char) : List Char :=
  if c = '~' then ['~', '0'] else if c = '/' then ['~', '1'] else [c]

/-- A token with each `~` written `~0` and each `/` written `~1`. -/
def escape (token : List Char) : List Char := token.flatMap escapeChar

/-- A token read back: `~0` is `~`, `~1` is `/`, and any other `~` is an error. -/
def unescape : List Char → Option (List Char)
  | [] => some []
  | '~' :: '0' :: cs => ('~' :: ·) <$> unescape cs
  | '~' :: '1' :: cs => ('/' :: ·) <$> unescape cs
  | '~' :: _ => none
  | c :: cs => (c :: ·) <$> unescape cs

/-- The pointer to the place the tokens lead to: each token, escaped, after a `/`. -/
def render (tokens : List (List Char)) : List Char := tokens.flatMap fun t => '/' :: escape t

/-- The tokens of a pointer: none for the whole document; otherwise, after the leading `/`, the
pieces between the `/`s, each read back. -/
def parse : List Char → Option (List (List Char))
  | [] => some []
  | '/' :: cs => (cs.splitOn '/').mapM unescape
  | _ :: _ => none

/-- The tokens of a pointer written as a string. -/
def tokens (pointer : String) : Option (List String) :=
  (parse pointer.toList).map (List.map String.ofList)

example : tokens "/a~1b/~0c" = some ["a/b", "~c"] := by decide

@[simp] theorem escape_nil : escape [] = [] := rfl

@[simp] theorem escape_cons (c : Char) (cs : List Char) :
    escape (c :: cs) = escapeChar c ++ escape cs := List.flatMap_cons

/-- A character with nothing to escape stands for itself. -/
theorem escapeChar_plain {c : Char} (tilde : c ≠ '~') (slash : c ≠ '/') : escapeChar c = [c] := by
  simp [escapeChar, tilde, slash]

theorem unescape_plain {c : Char} (cs : List Char) (tilde : c ≠ '~') :
    unescape (c :: cs) = (c :: ·) <$> unescape cs := by
  rw [unescape.eq_5] <;> simp [tilde]

/-- No escaped token holds a `/`. -/
theorem slash_not_mem_escape (token : List Char) : '/' ∉ escape token := by
  simp only [escape, List.mem_flatMap, not_exists, not_and]
  intro c _
  unfold escapeChar
  split
  · decide
  split
  · decide
  · next slash => simpa [eq_comm] using slash

theorem unescape_escape (token : List Char) : unescape (escape token) = some token := by
  induction token with
  | nil => rfl
  | cons c cs ih =>
    rw [escape_cons]
    by_cases tilde : c = '~'
    · subst tilde
      simp [escapeChar, unescape, ih]
    by_cases slash : c = '/'
    · subst slash
      simp [escapeChar, unescape, ih]
    · rw [escapeChar_plain tilde slash, List.singleton_append, unescape_plain _ tilde, ih]
      rfl

/-- A pointer with at least one token is its escaped tokens joined by `/`s, after a `/`. -/
theorem render_cons (t : List Char) (ts : List (List Char)) :
    render (t :: ts) = '/' :: ['/'].intercalate ((t :: ts).map escape) := by
  induction ts generalizing t with
  | nil => simp [render]
  | cons t' ts ih =>
    have rest : render (t :: t' :: ts) = '/' :: escape t ++ render (t' :: ts) := by
      simp [render]
    rw [rest, ih]
    simp only [List.map_cons, List.intercalate_cons_cons]
    simp

theorem mapM_unescape_escape (ts : List (List Char)) :
    (ts.map escape).mapM unescape = some ts := by
  induction ts with
  | nil => rfl
  | cons t ts ih => simp [unescape_escape, ih]

/-- Reading a pointer gives back the tokens it was written from. -/
theorem parse_render (ts : List (List Char)) : parse (render ts) = some ts := by
  cases ts with
  | nil => rfl
  | cons t ts =>
    rw [render_cons, parse]
    have noSlash : ∀ l ∈ (t :: ts).map escape, '/' ∉ l := by
      simp only [List.mem_map]
      rintro l ⟨token, -, rfl⟩
      exact slash_not_mem_escape token
    rw [List.splitOn_intercalate '/' noSlash (by simp), mapM_unescape_escape]

/-- The string form: a pointer written from strings reads back to them. -/
theorem tokens_render (ts : List String) :
    tokens (String.ofList (render (ts.map String.toList))) = some ts := by
  simp [tokens, parse_render, Function.comp_def]

end JsonPointer
