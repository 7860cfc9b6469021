/-!
# Patterns

A pattern describes texts: characters and classes of characters, repeated,
grouped and put side by side. This module only says which patterns are **well
formed**: every group and every class ends, something stands in front of every
repetition, and every character behind a backslash is known. Patterns know
nothing of letters and digits beyond their numbers, so the usual names for
classes of them are not known.
-/

namespace HttpBench.Text.Pattern

/-- The characters that an escape may stand for by themselves, or by a letter. -/
def isEscapable (c : Char) : Bool :=
  (c.toNat < 0x80 && !c.isAlphanum && c != '<' && c != '>') || ['a', 'f', 't', 'n', 'r', 'v', 'A', 'z'].contains c

/-- A hexadecimal digit. -/
def isHex (c : Char) : Bool := c.isDigit || ('a' ≤ c && c ≤ 'f') || ('A' ≤ c && c ≤ 'F')

/-- So many hexadecimal digits, and what stands behind them. -/
def digits? (count : Nat) (cs : List Char) : Option (List Char) :=
  if (cs.take count).length == count && (cs.take count).all isHex then some (cs.drop count) else none

/-- What stands behind an escape, its backslash being gone. -/
def escape? : List Char → Option (List Char)
  | 'x' :: rest => digits? 2 rest
  | 'u' :: rest => digits? 4 rest
  | 'U' :: rest => digits? 8 rest
  | c :: rest => if isEscapable c then some rest else none
  | [] => none

/-- **How a group begins**, behind its bracket: whether it is a group at all or
only sets how the rest is read, and what stands behind its beginning. -/
def group? : List Char → Option (Bool × List Char)
  | '?' :: ':' :: rest => some (true, rest)
  | '?' :: 'P' :: '<' :: rest | '?' :: '<' :: rest =>
    let name := rest.takeWhile fun c => c.isAlphanum || ['_', '.', '[', ']'].contains c
    match rest.drop name.length with
    | '>' :: rest => if (name.head?.map fun c => c.isAlpha || c == '_').getD false then some (true, rest) else none
    | _ => none
  | '?' :: rest =>
    let settings := rest.takeWhile fun c => c != ':' && c != ')'
    let areKnown := settings.all ['m', 's', 'U', 'R', 'x', 'u', '-'].contains && settings.eraseDups == settings
    if settings.isEmpty || settings.getLast? == some '-' || !areKnown then none
    else
      match rest.drop settings.length with
      | ':' :: rest => some (true, rest)
      | ')' :: rest => some (false, rest)
      | _ => none
  | rest => some (true, rest)

/-- **What stands behind a class**, `depth` brackets being open. The first
character of a class may be a closing bracket; `low` is the lower end of a
stretch that may follow. -/
def class? : Nat → Nat → Bool → Option Char → List Char → Option (List Char)
  | 0, _, _, _, _ => none
  | _ + 1, _, _, _, [] => none
  | fuel + 1, depth, isFirst, low, c :: rest =>
    if c == ']' && !isFirst then if depth ≤ 1 then some rest else class? fuel (depth - 1) false none rest
    else if c == '[' then
      match rest with
      | '^' :: rest => class? fuel (depth + 1) true none rest
      | rest => class? fuel (depth + 1) true none rest
    else if c == '\\' then
      match escape? rest with
      | some rest => class? fuel depth false none rest
      | none => none
    else
      match low, c, rest with
      | some low, '-', high :: rest =>
        if high == ']' || high == '[' || high == '-' || high == '\\' then class? fuel depth false none (high :: rest)
        else if high.toNat < low.toNat then none
        else class? fuel depth false none rest
      | _, _, _ => class? fuel depth false (some c) rest

/-- What stands behind a class, its bracket being gone. -/
def behindClass? (cs : List Char) : Option (List Char) :=
  match cs with
  | '^' :: rest => class? (cs.length + 1) 1 true none rest
  | _ => class? (cs.length + 1) 1 true none cs

/-- The rest of a pattern in so many groups, with or without something in front
that can be repeated. -/
def goesOn : Nat → Nat → Bool → List Char → Bool
  | 0, _, _, _ => false
  | _ + 1, groups, _, [] => groups == 0
  | fuel + 1, groups, canRepeat, c :: rest =>
    match c with
    | '(' =>
      match group? rest with
      | some (opens, rest) => goesOn fuel (if opens then groups + 1 else groups) false rest
      | none => false
    | ')' => 0 < groups && goesOn fuel (groups - 1) true rest
    | '[' =>
      match behindClass? rest with
      | some rest => goesOn fuel groups true rest
      | none => false
    | '*' | '+' | '?' => canRepeat && goesOn fuel groups true (if rest.head? == some '?' then rest.drop 1 else rest)
    | '\x7b' => false
    | '|' => goesOn fuel groups false rest
    | '\\' =>
      match escape? rest with
      | some rest => goesOn fuel groups true rest
      | none => false
    | _ => goesOn fuel groups true rest

/-- **A well-formed pattern.** -/
def isWellFormed (pattern : String) : Bool := goesOn (pattern.length + 1) 0 false pattern.toList

/-- A group that does not end. -/
example : isWellFormed "a(b" = false := by decide +kernel

/-- A group that is repeated, and a class with a bracket in it. -/
example : isWellFormed "(a|b)*[]x-z]" = true := by decide +kernel

end HttpBench.Text.Pattern
