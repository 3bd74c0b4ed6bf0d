import PetIT.Run.Basic
import PetIT.Run.Slots
import PetIT.Model.Document
import PetIT.Model.RoundTrip
import PetIT.Job.System
import PetIT.Job.Step
import PetIT.Job.Invariant
import PetIT.Job.Document
import PetIT.Job.Booking
import PetIT.Job.Told
import PetIT.Profile.System
import PetIT.Profile.Step
import PetIT.Profile.Invariant
import PetIT.Store.Pairing
import PetIT.Profile.Agreement
import PetIT.Profile.Photo
import PetIT.Profile.Read
import PetIT.Auth.Service
import PetIT.Auth.SignUp
import PetIT.Session.System
import PetIT.Session.Visible
import PetIT.Table.Rows
import PetIT.Listener.Contained
import PetIT.Table.Newest
import PetIT.Map.Commute
import PetIT.Service.Completion
import PetIT.Profile.Button
import PetIT.Form.Once
import PetIT.Form.Text
import PetIT.Form.Refine
import PetIT.Table.Owners
import PetIT.Profile.Untouched
import PetIT.Form.Keyboard
import PetIT.Form.Location
import PetIT.Job.Detail
import PetIT.Listener.Refresh
import PetIT.Live.Posts
import PetIT.Live.Forward
import PetIT.Live.Quiet
import PetIT.Live.Newest
import PetIT.Live.Pins
