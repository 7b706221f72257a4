import TokenSeal.EnvFile.Reader
import TokenSeal.Entries

/-!
# References between bindings

In a value, `${NAME}` and `${NAME:-default}` refer to another name. A reference takes the value of
an earlier binding of the same file, where a binding without a value gives the empty text, else that
of an environment variable, else its default, else the empty text. Names are compared exactly. A
dollar sign without braces, and braces that are not closed, stand for themselves.
-/

namespace TokenSeal.EnvFile

/-- A name to look up and what to use where it has no value. -/
structure Reference where
  name : List Char
  default : List Char
  deriving DecidableEq, Repr

/-- The reference whose name starts the text, and the text after its closing brace. -/
def readReference (s : List Char) : Option (Reference × List Char) :=
  let name := s.takeWhile fun c => c != '}' && c != ':'
  match s.dropWhile fun c => c != '}' && c != ':' with
  | '}' :: r => some (⟨name, []⟩, r)
  | ':' :: '-' :: r =>
    match r.dropWhile (· != '}') with
    | _ :: rest => some (⟨name, r.takeWhile (· != '}')⟩, rest)
    | [] => none
  | _ => none

/-- A reference is not empty, so scanning goes on with less text. -/
theorem length_of_readReference {s rest : List Char} {ref : Reference}
    (h : readReference s = some (ref, rest)) : rest.length < s.length := by
  unfold readReference at h
  have h1 := length_dropWhile_le (fun c => c != '}' && c != ':') s
  dsimp only at h
  split at h
  · next r he =>
    cases h
    rw [he] at h1
    simp only [List.length_cons] at h1
    omega
  · next r he =>
    rw [he] at h1
    have h2 := length_dropWhile_le (· != '}') r
    split at h
    · next d rest' hd =>
      cases h
      rw [hd] at h2
      simp only [List.length_cons] at h1 h2
      omega
    · cases h
  · cases h

/-- A value with every reference replaced by what `lookup` gives for it. -/
def expand (lookup : Reference → Text) : List Char → Text
  | [] => []
  | '$' :: '{' :: r =>
    match _h : readReference r with
    | some (ref, rest) => lookup ref ++ expand lookup rest
    | none => '$' :: expand lookup ('{' :: r)
  | c :: r => c :: expand lookup r
termination_by s => s.length
decreasing_by
  · have := length_of_readReference _h
    simp only [List.length_cons]
    omega
  · simp
  · simp

/-- What a reference stands for, given the earlier bindings and the environment. -/
def resolve (earlier : Entries (Option Text)) (environment : Entries Text) (ref : Reference) :
    Text :=
  match earlier.get? (.ofChars ref.name) with
  | some value => value.getD []
  | none => (environment.get? (.ofChars ref.name)).getD (.ofChars ref.default)

/-- The names of a file with their values, each with its references replaced. -/
def values (environment : Entries Text) (bs : List Binding) : Entries (Option Text) :=
  bs.foldl
    (fun earlier b =>
      earlier.set (.ofChars b.name) (b.value.map (expand (resolve earlier environment))))
    []

end TokenSeal.EnvFile
