import Stackplz.Debug.Faults
import Stackplz.Debug.Restoration
import Stackplz.Debug.Encoding
import Stackplz.Debug.Stepping
import Stackplz.Binding.Lifecycle
import Stackplz.Binding.Lock
import Stackplz.Maps.Exclusion
import Stackplz.Maps.Ownership
import Stackplz.Maps.Render
import Stackplz.Module.Clear
import Stackplz.Module.Armed
import Stackplz.Module.Capture
import Stackplz.Module.Exit
import Stackplz.Module.Session
import Stackplz.Module.AsyncRuns
import Stackplz.Wire.Checksum
import Stackplz.Client.RoundTrip
import Stackplz.Client.Answers
import Stackplz.Text.NoSpace
import Stackplz.Bpf.Isolation
import Stackplz.Bpf.FixedSize
import Stackplz.Bpf.StringArray
import Stackplz.Bpf.Forking
import Stackplz.Bpf.Syscall
import Stackplz.Bpf.UprobePoints
import Stackplz.Bpf.StrcmpByMap
import Stackplz.Bpf.ValueFilters
import Stackplz.Bpf.FilterTable
import Stackplz.Bpf.Repeat
import Stackplz.Bpf.EventRuns
import Stackplz.MapsHelper.Library
import Stackplz.MapsHelper.Updates
import Stackplz.MapsHelper.Newest
import Stackplz.MapsHelper.Stack
import Stackplz.Profile.Banner
import Stackplz.Module.Loading
import Stackplz.Helper
import Stackplz.Lifecycle
