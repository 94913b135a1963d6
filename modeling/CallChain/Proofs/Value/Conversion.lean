import CallChain.Value

/-! Conversion of values: it succeeds exactly for the accepted types and gives the right one. -/

namespace CallChain.Value

/-- A value that was converted is of the type it was converted to. -/
theorem type_of_coerce? {value converted : Value} {target : ValueType}
    (done : value.coerce? target = some converted) : converted.type = target := by
  unfold coerce? at done
  split at done
  · simp only [Option.some.injEq] at done
    subst done
    assumption
  · -- The only other conversion makes a float of an integer.
    split at done
    · simp only [Option.some.injEq] at done
      subst done
      rfl
    · simp at done

/-- The zero of a type is of that type. -/
@[simp] theorem type_zero (type : ValueType) : (zero type).type = type := by
  cases type <;> rfl

/-- A value can be converted to exactly the types that accept its own. -/
theorem coerce?_isSome (value : Value) (target : ValueType) :
    (value.coerce? target).isSome = target.accepts value.type := by
  cases value <;> cases target <;> rfl

/-- Every value is that of its own data. -/
theorem data?_type (value : Value) :
    ∃ data, value.data? value.type = some data ∧ ofCarrier value.type data = value := by
  cases value <;> exact ⟨_, rfl, rfl⟩

/-- The value of some data is of the type of the data. -/
@[simp] theorem type_ofCarrier (type : ValueType) (data : type.Carrier) :
    (ofCarrier type data).type = type := by
  cases type <;> rfl

/-- A value is converted to its own type by leaving it as it is. -/
theorem coerce?_type (value : Value) : value.coerce? value.type = some value :=
  if_pos rfl

/-- Taking the data of a value as a type is converting the value to the type. -/
theorem map_carrier? (value : Value) (target : ValueType) :
    (value.carrier? target).map (ofCarrier target) = value.coerce? target := by
  unfold carrier?
  -- A converted value is of the target type, so its data can be taken.
  cases converted : value.coerce? target with
  | none => rfl
  | some result =>
    have typed := type_of_coerce? converted
    subst typed
    obtain ⟨data, taken, same⟩ := data?_type result
    simp [taken, same]

/-- A value has data of exactly the types that accept its own. -/
theorem carrier?_isSome (value : Value) (target : ValueType) :
    (value.carrier? target).isSome = target.accepts value.type := by
  rw [← coerce?_isSome, ← map_carrier?, Option.isSome_map]

end CallChain.Value
