import OrderOfGrowth.FileTree.Path

/-! # Glob libraries — what compiles patterns into a matcher

    A library first reads the patterns, each by itself, and then compiles all of them together.  It
    may refuse a pattern, or patterns that it has read: one that is too deep, or too many that are
    too large together.  In either case it says so in words of its own. -/

namespace OrderOfGrowth

/-- What a library does with patterns. -/
structure GlobLibrary where
  /-- What a pattern is read as. -/
  Pattern : Type
  /-- What patterns are compiled into. -/
  Matcher : Type
  /-- Reads a pattern, or tells why not. -/
  read : Text → Except Text Pattern
  /-- Compiles patterns together, or tells why not. -/
  compile : List Pattern → Except Text Matcher
  /-- Does a matcher accept a path? -/
  accepts : Matcher → Path → Bool

end OrderOfGrowth
