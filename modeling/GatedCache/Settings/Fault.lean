import GatedCache.Log.Level
import GatedCache.Settings.Field
import GatedCache.Settings.Mode
import GatedCache.Text.Quoted

/-!
Why a value is refused as a setting, and the words for it.
-/
namespace GatedCache

inductive Fault where
  | notText
  | textEncoding
  | notFlag
  | flagWord
  | notInteger
  | integerText
  | integerFraction
  | integerSize
  | notFinite
  | notNumber
  | numberText
  | below (least : Int)
  | above (greatest : Int)
  | notPositive
  | unknownMode
  | unknownLevel
  deriving DecidableEq

namespace Fault

def code : Fault → String
  | notText => "string_type"
  | textEncoding => "string_unicode"
  | notFlag => "bool_type"
  | flagWord => "bool_parsing"
  | notInteger => "int_type"
  | integerText => "int_parsing"
  | integerFraction => "int_from_float"
  | integerSize => "int_parsing_size"
  | notFinite => "finite_number"
  | notNumber => "float_type"
  | numberText => "float_parsing"
  | below _ => "greater_than_equal"
  | above _ => "less_than_equal"
  | notPositive => "greater_than"
  | unknownMode => "value_error"
  | unknownLevel => "value_error"

def listing (names : List String) : String :=
  "[" ++ ", ".intercalate (names.map Text.quoted) ++ "]"

def message : Fault → String
  | notText => "Input should be a valid string"
  | textEncoding => "Input should be a valid string, unable to parse raw data as a unicode string"
  | notFlag => "Input should be a valid boolean"
  | flagWord => "Input should be a valid boolean, unable to interpret input"
  | notInteger => "Input should be a valid integer"
  | integerText => "Input should be a valid integer, unable to parse string as an integer"
  | integerFraction => "Input should be a valid integer, got a number with a fractional part"
  | integerSize => "Unable to parse input string as an integer, exceeded maximum size"
  | notFinite => "Input should be a finite number"
  | notNumber => "Input should be a valid number"
  | numberText => "Input should be a valid number, unable to parse string as a number"
  | below least => "Input should be greater than or equal to " ++ toString least
  | above greatest => "Input should be less than or equal to " ++ toString greatest
  | notPositive => "Input should be greater than 0"
  | unknownMode =>
    "Value error, " ++ Field.environment.name ++ " must be one of: " ++ listing (Mode.all.map Mode.name)
  | unknownLevel =>
    "Value error, " ++ Field.logLevel.name ++ " must be one of: " ++
      listing (Log.Level.all.map Log.Level.name)

end Fault

structure Problem where
  field : Field
  fault : Fault
  deriving DecidableEq

namespace Problem

def headline (problems : List Problem) : String :=
  toString problems.length ++
    (if problems.length = 1 then " validation error" else " validation errors") ++ " for Settings"

end Problem
end GatedCache
