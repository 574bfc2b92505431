import Notebook.Number.Decimal
import Notebook.Number.Numeral

/-! # Sizes, ages and counts for people -/

namespace Notebook

/-! ## Ages -/

/-- A unit of time: its names, and how many make up the next one. -/
structure TimeUnit where
  singular : Text
  plural : Text
  limit : Nat

def timeUnits : List TimeUnit :=
  [⟨"second".toList, "seconds".toList, 60⟩, ⟨"minute".toList, "minutes".toList, 60⟩,
    ⟨"hour".toList, "hours".toList, 24⟩, ⟨"day".toList, "days".toList, 30⟩,
    ⟨"month".toList, "months".toList, 12⟩]

def greatestCount : Nat := Nat.pow 2 64 - 1

/-- The whole number nearest to a number that is not negative, the greater of two. -/
def nearestCount : Double → Nat
  | .finite _ rank => min greatestCount (roundDiv .up (units rank) one)
  | _ => greatestCount

def ageText (count : Nat) (singular plural : Text) : Text :=
  Nat.toDigits 10 count ++ ' ' :: (if count = 1 then singular else plural) ++ " ago".toList

/-- An age in the first unit in which it is below the limit. What no unit of the list can show is
counted in years, and an endless time is not shown. -/
def ageIn : List TimeUnit → Double → Text
  | u :: rest, span =>
    if span.below u.limit then ageText (nearestCount span) u.singular u.plural
    else ageIn rest (span.divNat u.limit)
  | [], span =>
    if span.isFinite then ageText (nearestCount span) "year".toList "years".toList else []

/-- How long ago some seconds were; a time to come is now. -/
def readableAge (seconds : Double) : Text := ageIn timeUnits seconds.orZero

/-! ## Sizes -/

def sizeUnits : List Text := ["", "K", "M", "G", "T", "P", "E", "Z"].map String.toList

def sizeText (size : Double) (unit : Text) : Text :=
  let number := match size with
    | .finite _ rank => tenths rank
    | _ => "inf".toList
  if unit = [] && number.drop (number.length - 2) = ".0".toList then
    number.take (number.length - 2) ++ " bytes".toList
  else number ++ ' ' :: unit ++ ['B']

def sizeIn : List Text → Double → Text
  | unit :: rest, size => if size.below 1024 then sizeText size unit else sizeIn rest (size.divNat 1024)
  | [], size => sizeText size "Yi".toList

def readableSize (bytes : Nat) : Text := sizeIn sizeUnits (Double.ofNat bytes)

/-! ## Counts -/

/-- Digits with a comma before every third from the end. -/
def grouped : Text → Text
  | [] => []
  | d :: rest =>
    if rest.length % 3 = 0 && rest ≠ [] then d :: ',' :: grouped rest else d :: grouped rest

def groupThousands (n : Nat) : Text := grouped (Nat.toDigits 10 n)

end Notebook
