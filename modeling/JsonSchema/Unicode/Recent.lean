import JsonSchema.Unicode.Category
import JsonSchema.Unicode.Property

/-!
Characters by version 17.0 of the standard. Properties and categories are those of version 16.0, which the classes of
patterns go by; what version 17.0 added is set apart here.
-/
namespace JsonSchema.Unicode

/-- The characters that version 17.0 added. None of them is a control, a blank or for private use. -/
def added : RangeSet := .decode [
  "YaF0-C0ZV0ZlIE2BXkL0YsK0_XN12010S0q-HFjT1XM6YxHPXhB288X11ZZ47o8XB49qbMO2OeU4cW17Xe9LZ1ZIlu72jTMFGb-FU1L81Z-O",
  "0aU3gL8hR3XI030XP040S040eA0XkvV5bx2Bre2ac9"]

def addedAlphabetic : RangeSet := .decode [
  "YaF0-C0ZV0XctH12010S0ugEPXhB2XI1ZZ47o8XBqc4O2OeU4cW17Xe9LZ1ZIscDU1L81XqXQ5bx2Bre2ac9"]

def addedNumbers : RangeSet := .decode [
  "Ydl09qmA2"]

def addedMarks : RangeSet := .decode [
  "csFE2BXzWE1ZZ47XoxR0207150"]

def isAlphabetic (c : Nat) : Bool := alphabetic.contains c || addedAlphabetic.contains c

def isNumber (c : Nat) : Bool := anyContains numbers c || addedNumbers.contains c

def isMark (c : Nat) : Bool := anyContains marks c || addedMarks.contains c

/-- What is never to be seen: controls, blanks, formats and what is not assigned. -/
def unseen : List RangeSet := (category? "c").getD [] ++ (category? "z").getD []

def isSeen (c : Nat) : Bool := !anyContains unseen c || added.contains c

end JsonSchema.Unicode
