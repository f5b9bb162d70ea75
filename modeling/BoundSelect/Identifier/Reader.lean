import BoundSelect.Identifier.Basic

set_option autoImplicit false

namespace BoundSelect

namespace Identifier

inductive Flaw where
  | empty
  | nul
  | afterStar (source : String)
  | trailingDot (source : String)
  | missingDot (found : Char)
  | star (source : String)
  | unclosedQuote (source : String)
  | emptyQuotes
  | badStart (found : Char) (source : String)
  | badFollower (found : Char) (source : String)
  | emptyPart (source : String)
  | qualifiedAlias (source : String)
  deriving DecidableEq, Repr

def Flaw.message : Flaw → String
  | empty => "Identifier cannot be empty"
  | nul => "Identifier cannot contain NUL character"
  | afterStar source => s!"'*' must be the last part of '{source}'"
  | trailingDot source => s!"Trailing '.' in identifier '{source}'"
  | missingDot found => s!"Expected '.' between identifier parts, got '{found}'"
  | star source => s!"Wildcard not allowed in identifier '{source}'"
  | unclosedQuote source => s!"Unclosed quoted identifier in '{source}'"
  | emptyQuotes => "Empty quoted identifier"
  | badStart found source => s!"Invalid identifier start character '{found}' in '{source}'"
  | badFollower found source => s!"Invalid character '{found}' in identifier '{source}'"
  | emptyPart source => s!"Empty identifier segment in '{source}'"
  | qualifiedAlias source => s!"Alias '{source}' must be a single identifier"

def readQuoted : List Char → Option (List Char × List Char)
  | [] => none
  -- A doubled quote stands for one and closes nothing.
  | '"' :: '"' :: rest => (readQuoted rest).map fun (content, after) => ('"' :: content, after)
  | '"' :: rest => some ([], rest)
  | c :: rest => (readQuoted rest).map fun (content, after) => (c :: content, after)

theorem length_of_readQuoted {cs content after : List Char}
    (h : readQuoted cs = some (content, after)) : after.length < cs.length := by
  fun_induction readQuoted cs generalizing content with
  | case1 => simp at h
  | case2 rest ih =>
      obtain ⟨read, hr, e⟩ := Option.map_eq_some_iff.1 h
      obtain ⟨rfl, rfl⟩ := Prod.mk.inj e
      have := ih hr
      simp only [List.length_cons]
      omega
  | case3 rest => simp_all
  | case4 c rest _ _ ih =>
      obtain ⟨read, hr, e⟩ := Option.map_eq_some_iff.1 h
      obtain ⟨rfl, rfl⟩ := Prod.mk.inj e
      have := ih hr
      simp only [List.length_cons]
      omega

def checkPlain (source : String) : List Char → Except Flaw Name
  | [] => .error (.emptyPart source)
  | c :: rest =>
      if !Name.isStart c then .error (.badStart c source)
      else match rest.find? fun d => !Name.isFollower d with
        | some d => .error (.badFollower d source)
        | none => .ok (.plain (String.ofList (c :: rest)))

def readPart (source : String) (allowStar : Bool) : List Char → Except Flaw (Part × List Char)
  | '*' :: rest => if allowStar then .ok (.star, rest) else .error (.star source)
  | '"' :: rest =>
      match readQuoted rest with
      | none => .error (.unclosedQuote source)
      | some ([], _) => .error .emptyQuotes
      | some (content, after) => .ok (.name (.quoted (String.ofList content)), after)
  | cs =>
      match checkPlain source (cs.takeWhile (· != '.')) with
      | .error flaw => .error flaw
      | .ok name => .ok (.name name, cs.dropWhile (· != '.'))

theorem length_of_readPart {source : String} {allowStar : Bool} {cs rest : List Char} {part : Part}
    (h : readPart source allowStar cs = .ok (part, rest)) : rest.length < cs.length := by
  fun_cases readPart source allowStar cs with
  | case5 after content left _ found =>
      have := length_of_readQuoted found
      simp_all [readPart]
      omega
  | case7 cs notStar notQuote name checked =>
      simp only [readPart, checked, Except.ok.injEq, Prod.mk.injEq] at h
      have total := congrArg List.length (List.takeWhile_append_dropWhile (p := (· != '.')) (l := cs))
      cases taken : cs.takeWhile (· != '.') with
      | nil => simp [taken, checkPlain] at checked
      | cons c more =>
          rw [taken, h.2] at total
          simp only [List.length_append, List.length_cons] at total
          omega
  | _ => simp_all [readPart]

def readParts (source : String) (allowStar : Bool) (cs : List Char) : Except Flaw Identifier :=
  match _read : readPart source allowStar cs with
  | .error flaw => .error flaw
  | .ok (part, []) => .ok { last := part }
  | .ok (.star, _ :: _) => .error (.afterStar source)
  | .ok (.name n, c :: rest) =>
      if c != '.' then .error (.missingDot c)
      else if rest.isEmpty then .error (.trailingDot source)
      else match readParts source allowStar rest with
        | .error flaw => .error flaw
        | .ok tail => .ok { tail with path := n :: tail.path }
termination_by cs.length
decreasing_by
  have := length_of_readPart _read
  simp only [List.length_cons] at this
  omega

def read (allowStar : Bool) (source : String) : Except Flaw Identifier :=
  let cs := source.toList
  if cs.isEmpty then .error .empty
  else if cs.contains '\x00' then .error .nul
  else readParts source allowStar cs

def parse (source : String) : Except Flaw Identifier := read false source

def parseColumn (source : String) : Except Flaw Identifier := read true source

end Identifier

def Name.parse (source : String) : Except Identifier.Flaw Name := do
  match ← Identifier.parse source with
  | { path := [], last := .name n } => return n
  | _ => throw (.qualifiedAlias source)

end BoundSelect
