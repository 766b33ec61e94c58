import GatedCache.Binary64
import GatedCache.Binary64.Rounded
import GatedCache.Binary64.Text
import GatedCache.Cache
import GatedCache.Cache.Event
import GatedCache.Cache.Opening
import GatedCache.Cache.Operation
import GatedCache.Cache.Scope
import GatedCache.Cache.Session
import GatedCache.Client
import GatedCache.Connection
import GatedCache.Connection.Retry
import GatedCache.EnvFile
import GatedCache.EnvFile.Expansion
import GatedCache.Failure
import GatedCache.Failure.Named
import GatedCache.Log.Level
import GatedCache.Log.Line
import GatedCache.Log.Record
import GatedCache.Log.Setup
import GatedCache.Log.Template
import GatedCache.Main
import GatedCache.Service
import GatedCache.Service.Launch
import GatedCache.Service.Response
import GatedCache.Service.Route
import GatedCache.Service.Session
import GatedCache.Settings
import GatedCache.Settings.Fault
import GatedCache.Settings.Field
import GatedCache.Settings.Memo
import GatedCache.Settings.Mode
import GatedCache.Settings.Reading
import GatedCache.Settings.Shown
import GatedCache.Settings.Source
import GatedCache.Store
import GatedCache.Store.Command
import GatedCache.Text.Blank
import GatedCache.Text.Digit
import GatedCache.Text.Numeral
import GatedCache.Text.PercentEncoded
import GatedCache.Text.Printable
import GatedCache.Text.Quoted
import GatedCache.Text.UpperCase
import GatedCache.Value
import GatedCache.Value.Integer
import GatedCache.Value.Literal
import GatedCache.Value.Record
import GatedCache.Proofs.RoundTrip
import GatedCache.Proofs.Body
import GatedCache.Proofs.Opening
import GatedCache.Proofs.Release
import GatedCache.Proofs.Ending
import GatedCache.Proofs.Expiry
import GatedCache.Proofs.Health
import GatedCache.Proofs.Loading
import GatedCache.Proofs.Resolution
import GatedCache.Proofs.Password
import GatedCache.Proofs.FileLines
import GatedCache.Proofs.FileReading
import GatedCache.Proofs.FileValues
import GatedCache.Proofs.FileReferences
import GatedCache.Proofs.Interchange
import GatedCache.Proofs.Bounds
import GatedCache.Proofs.Course
import GatedCache.Proofs.Secrecy
import GatedCache.Proofs.Atomicity
import GatedCache.Proofs.HealthCourse
import GatedCache.Proofs.Attempts
import GatedCache.Proofs.Separation
import GatedCache.Proofs.Disabled
import GatedCache.Proofs.Indifference
import GatedCache.Proofs.DefaultTtl
import GatedCache.Proofs.NumeralText
import GatedCache.Proofs.IntegerFields
import GatedCache.Proofs.Translation
import GatedCache.Proofs.Suggestion
import GatedCache.Proofs.Transparency
import GatedCache.Proofs.Epochs
import GatedCache.Proofs.Configuration
import GatedCache.Proofs.FileReferences
